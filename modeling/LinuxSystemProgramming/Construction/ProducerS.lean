import LinuxSystemProgramming.Library.Transition
import LinuxSystemProgramming.Construction.Semlib
import LinuxSystemProgramming.Construction.BoundedBuffer

namespace ProducerS
open Transition Semlib BoundedBuffer

/-- A point names the statement of `main` of `producer_s.c` or `consumer_s.c` that is executed next. -/
inductive Point where
  | semInit (key : Key)
  | semInitValue (key : Key)
  | loop
  | waitSlot
  | waitMutex
  | access
  | advance
  | count
  | postMutex
  | postSlot
  | finished
  | semDestroy (key : Key)
  | remove
  | exit
  | exited
  | failed
  deriving DecidableEq, Repr

/-- Each process has its point and its loop variable `i`. -/
structure Local where
  point : Point
  i : Nat
  deriving DecidableEq, Repr

def Local.goto (view : Local) (point : Point) : Local := { view with point := point }

/-- The programs set and remove the semaphores in this order. -/
def next : Key → Option Key
  | .emptySem => some .mutexSem
  | .mutexSem => some .fullSem
  | .fullSem => none

/-- The producer takes a free slot, and the consumer takes a filled one. -/
def taken : Role → Key
  | .producer => .emptySem
  | .consumer => .fullSem

/-- The producer gives a filled slot, and the consumer gives a free one. -/
def given (role : Role) : Key := taken role.other

/-- `consumer_s.c` stores `MAX_BUF`, one, and zero. -/
def initialValue (maxBuf : Nat) : Key → Nat
  | .emptySem => maxBuf
  | .mutexSem => 1
  | .fullSem => 0

/-- The programs call these functions of `semlib.c` on an existing semaphore. -/
inductive Operation where
  | semInitValue (value : Nat)
  | semWait
  | semPost
  deriving DecidableEq

/-- Each function has its effect on the semaphore. -/
def Operation.apply (role : Role) : Operation → Semaphore Role → Option (Semaphore Role)
  | .semInitValue value, semaphore => some (Semlib.semInitValue value semaphore)
  | .semWait, semaphore => Semlib.semWait role semaphore
  | .semPost, semaphore => some (Semlib.semPost role semaphore)

/-- A process calls a function on one semaphore at each of these points. -/
def Local.calls (maxBuf : Nat) (role : Role) (view : Local) : Option (Key × Operation) :=
  match view.point with
  | .semInitValue key => some (key, .semInitValue (initialValue maxBuf key))
  | .waitSlot => some (taken role, .semWait)
  | .waitMutex => some (.mutexSem, .semWait)
  | .postMutex => some (.mutexSem, .semPost)
  | .postSlot => some (given role, .semPost)
  | _ => none

/-- A process goes on after a call, and the loop variable grows after the last one. -/
def Local.succeed (view : Local) : Local :=
  match view.point with
  | .semInitValue key =>
      match next key with
      | some other => view.goto (.semInitValue other)
      | none => view.goto .loop
  | .waitSlot => view.goto .waitMutex
  | .waitMutex => view.goto .access
  | .postMutex => view.goto .postSlot
  | .postSlot => ⟨.loop, view.i + 1⟩
  | _ => view

/-- The processes share the buffer and the semaphores, and they record the items. -/
structure State where
  buffer : BoundedBufferType
  sem : Table Role
  removed : Bool
  view : Role → Local
  produced : List ItemType
  consumed : List ItemType

/-- A label is a statement, the producer's data, a statement of the tear-down, or the end of a process. -/
inductive Label where
  | step (role : Role)
  | produce (data : Int)
  | tearDown
  | terminate (role : Role)
  deriving DecidableEq

def State.setView (state : State) (role : Role) (view : Local) : State :=
  { state with view := Function.update state.view role view }

/-- A process moves without an effect on the shared objects. -/
def State.goto (state : State) (role : Role) (point : Point) : State :=
  state.setView role ((state.view role).goto point)

/-- A process creates a semaphore, and only the consumer sets the values afterwards. -/
def State.create (state : State) (role : Role) (key : Key) : State :=
  { state.goto role
      (match key.after, role with
        | some other, _ => .semInit other
        | none, .producer => .loop
        | none, .consumer => .semInitValue .emptySem) with
    sem := state.sem.create key }

/-- The producer stores its data in the buffer. -/
def State.store (state : State) (data : Int) : State :=
  { state.goto .producer .advance with
    buffer := state.buffer.store data
    produced := state.produced ++ [⟨data⟩] }

/-- The consumer reads its data from the buffer. -/
def State.load (state : State) : State :=
  { state.goto .consumer .advance with consumed := state.consumed ++ [state.buffer.load] }

/-- A process executes its statement on `pBuf->in` or `pBuf->out`. -/
def State.advanceIndex (maxBuf : Nat) (state : State) (role : Role) : State :=
  { state.goto role .count with buffer := role.advance maxBuf state.buffer }

/-- A process executes its statement on `pBuf->counter`. -/
def State.changeCounter (state : State) (role : Role) : State :=
  { state.goto role .postMutex with buffer := role.count state.buffer }

/-- A process ends, and the kernel undoes its operations. -/
def State.terminate (state : State) (role : Role) (point : Point) : State :=
  { state.goto role point with sem := state.sem.exit role }

/-- A call succeeds, blocks, or fails with `exit(1)`. -/
def State.call (state : State) (role : Role) (key : Key) (operation : Operation) : Option State :=
  (state.sem.operate key (operation.apply role)).map fun
    | some sem => { state.setView role (state.view role).succeed with sem := sem }
    | none => state.terminate role .failed

/-- The statements up to the end of the loop have one outcome, except for the producer's data. -/
def State.statement (maxBuf nloops : Nat) (state : State) (role : Role) : Option State :=
  match (state.view role).point with
  | .semInit key => some (state.create role key)
  | .loop =>
      if (state.view role).i < nloops then some (state.goto role .waitSlot)
      else some (state.goto role .finished)
  | .access => if role = .consumer then some state.load else none
  | .advance => some (state.advanceIndex maxBuf role)
  | .count => some (state.changeCounter role)
  | _ =>
      ((state.view role).calls maxBuf role).bind fun site => state.call role site.1 site.2

/-- After its loop the producer sleeps, removes the semaphores, and removes the shared memory. -/
def State.tearDown (state : State) : Option State :=
  match (state.view .producer).point with
  | .finished => some (state.goto .producer (.semDestroy .emptySem))
  | .semDestroy key =>
      some { state.goto .producer
          (match next key with
            | some other => .semDestroy other
            | none => .remove) with
        sem := state.sem.destroy key }
  | .remove => some { state.goto .producer .exit with removed := true }
  | _ => none

/-- A process that has not ended can end at any point. -/
def State.next (maxBuf nloops : Nat) (state : State) : Label → Option State
  | .step role => state.statement maxBuf nloops role
  | .produce data =>
      if (state.view .producer).point = .access then some (state.store data) else none
  | .tearDown => state.tearDown
  | .terminate role =>
      if (state.view role).point = .exited ∨ (state.view role).point = .failed then none
      else some (state.terminate role .exited)

/-- No semaphore exists, and the shared memory is zero. -/
def fresh : State where
  buffer := .zero
  sem := fun _ => none
  removed := false
  view := fun _ => ⟨.semInit .emptySem, 0⟩
  produced := []
  consumed := []

/-- The consumer has completed its initialization, and both processes start their loops. -/
def ready (maxBuf : Nat) : State where
  buffer := .zero
  sem := fun key => some ⟨initialValue maxBuf key, fun _ => 0⟩
  removed := false
  view := fun _ => ⟨.loop, 0⟩
  produced := []
  consumed := []

/-- The system runs both programs from a start. -/
def system (maxBuf nloops : Nat) (start : State) : System State Label where
  initial state := state = start
  next := State.next maxBuf nloops

/-- This relation lists the steps of the processes with their guards and effects. -/
inductive Step (maxBuf nloops : Nat) (state : State) : Label → State → Prop where
  | create (role : Role) (key : Key) (here : (state.view role).point = .semInit key) :
      Step maxBuf nloops state (.step role) (state.create role key)
  | enter (role : Role) (here : (state.view role).point = .loop)
      (more : (state.view role).i < nloops) :
      Step maxBuf nloops state (.step role) (state.goto role .waitSlot)
  | finish (role : Role) (here : (state.view role).point = .loop)
      (done : ¬ (state.view role).i < nloops) :
      Step maxBuf nloops state (.step role) (state.goto role .finished)
  | store (data : Int) (here : (state.view .producer).point = .access) :
      Step maxBuf nloops state (.produce data) (state.store data)
  | load (here : (state.view .consumer).point = .access) :
      Step maxBuf nloops state (.step .consumer) state.load
  | advance (role : Role) (here : (state.view role).point = .advance) :
      Step maxBuf nloops state (.step role) (state.advanceIndex maxBuf role)
  | count (role : Role) (here : (state.view role).point = .count) :
      Step maxBuf nloops state (.step role) (state.changeCounter role)
  | call (role : Role) (key : Key) (operation : Operation) (sem : Table Role)
      (site : (state.view role).calls maxBuf role = some (key, operation))
      (operated : state.sem.operate key (operation.apply role) = some (some sem)) :
      Step maxBuf nloops state (.step role)
        { state.setView role (state.view role).succeed with sem := sem }
  | fail (role : Role) (key : Key) (operation : Operation)
      (site : (state.view role).calls maxBuf role = some (key, operation))
      (operated : state.sem.operate key (operation.apply role) = some none) :
      Step maxBuf nloops state (.step role) (state.terminate role .failed)
  | wake (here : (state.view .producer).point = .finished) :
      Step maxBuf nloops state .tearDown (state.goto .producer (.semDestroy .emptySem))
  | destroy (key : Key) (here : (state.view .producer).point = .semDestroy key) :
      Step maxBuf nloops state .tearDown
        { state.goto .producer
            (match next key with
              | some other => .semDestroy other
              | none => .remove) with
          sem := state.sem.destroy key }
  | remove (here : (state.view .producer).point = .remove) :
      Step maxBuf nloops state .tearDown { state.goto .producer .exit with removed := true }
  | terminate (role : Role) (running : (state.view role).point ≠ .exited)
      (sound : (state.view role).point ≠ .failed) :
      Step maxBuf nloops state (.terminate role) (state.terminate role .exited)

/-- Each statement of a process is one of the listed steps. -/
theorem step_of_statement {maxBuf nloops : Nat} {state later : State} (role : Role)
    (moved : state.statement maxBuf nloops role = some later) :
    Step maxBuf nloops state (.step role) later := by
  unfold State.statement at moved
  split at moved
  case h_1 key here => cases Option.some.inj moved; exact .create role key here
  case h_2 here =>
      split at moved
      case isTrue more => cases Option.some.inj moved; exact .enter role here more
      case isFalse done => cases Option.some.inj moved; exact .finish role here done
  case h_3 here =>
      split at moved
      case isTrue consumer => subst consumer; cases Option.some.inj moved; exact .load here
      case isFalse => cases moved
  case h_4 here => cases Option.some.inj moved; exact .advance role here
  case h_5 here => cases Option.some.inj moved; exact .count role here
  case h_6 =>
      obtain ⟨⟨key, operation⟩, site, called⟩ := Option.bind_eq_some_iff.mp moved
      obtain ⟨result, operated, rfl⟩ := Option.map_eq_some_iff.mp called
      cases result with
      | none => exact .fail role key operation site operated
      | some sem => exact .call role key operation sem site operated

/-- Each step of the system is one of the listed steps. -/
theorem step_of_next {maxBuf nloops : Nat} {state later : State} {label : Label}
    (moved : state.next maxBuf nloops label = some later) :
    Step maxBuf nloops state label later := by
  cases label with
  | step role => exact step_of_statement role moved
  | produce data =>
      simp only [State.next, Option.ite_none_right_eq_some, Option.some.injEq] at moved
      exact moved.2 ▸ .store data moved.1
  | tearDown =>
      simp only [State.next, State.tearDown] at moved
      split at moved
      case h_1 here => cases Option.some.inj moved; exact .wake here
      case h_2 key here => cases Option.some.inj moved; exact .destroy key here
      case h_3 here => cases Option.some.inj moved; exact .remove here
      case h_4 => cases moved
  | terminate role =>
      simp only [State.next, Option.ite_none_left_eq_some, not_or, Option.some.injEq] at moved
      exact moved.2 ▸ .terminate role moved.1.1 moved.1.2

end ProducerS

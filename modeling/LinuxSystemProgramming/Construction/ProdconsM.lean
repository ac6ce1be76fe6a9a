import LinuxSystemProgramming.Library.Transition
import LinuxSystemProgramming.Library.Monitor
import LinuxSystemProgramming.Construction.BoundedBuffer

namespace ProdconsM
open Transition BoundedBuffer

/-- A point names the statement of the loop of `Producer` or `Consumer` that a thread executes next. -/
inductive Point where
  | loop
  | lock
  | check
  | blocked
  | woken
  | access
  | advance
  | count
  | signal
  | unlock
  | finished
  deriving DecidableEq, Repr

/-- Each thread has its role, its point, and its loop variable `i`. -/
structure Local where
  role : Role
  point : Point
  i : Nat
  deriving DecidableEq, Repr

/-- A thread at these points holds `Mutex`. -/
def Local.locked (view : Local) : Bool :=
  match view.point with
  | .check | .access | .advance | .count | .signal | .unlock => true
  | _ => false

/-- A thread of a role is blocked in `pthread_cond_wait` on the condition of that role. -/
def Local.blockedAs (role : Role) (view : Local) : Bool :=
  decide (view.role = role ∧ view.point = .blocked)

/-- A thread of a role left the condition queue and must acquire `Mutex` again. -/
def Local.wokenAs (role : Role) (view : Local) : Bool :=
  decide (view.role = role ∧ view.point = .woken)

def Local.goto (view : Local) (point : Point) : Local := { view with point := point }

/-- The producer waits on `NotFull` while the buffer is full, the consumer on `NotEmpty` while it is empty. -/
def mustWait (maxBuf : Nat) (role : Role) (buffer : BoundedBufferType) : Bool :=
  match role with
  | .producer => decide (buffer.counter = maxBuf)
  | .consumer => decide (buffer.counter = 0)

/-- The state has the globals, the threads, and the sequences of produced and consumed items. -/
structure State (Thread : Type) where
  buffer : BoundedBufferType
  mutex : Option Thread
  thread : Thread → Local
  produced : List ItemType
  consumed : List ItemType

/-- A label names the thread that moves with the produced data or the signal's target. -/
inductive Label (Thread : Type) where
  | advance (thread : Thread)
  | produce (thread : Thread) (data : Int)
  | signal (thread : Thread) (target : Option Thread)
  | spurious (thread : Thread)
  deriving DecidableEq

/-- A spurious wake-up is the only step that no thread takes by itself. -/
def Label.isSpurious {Thread : Type} : Label Thread → Bool
  | .spurious _ => true
  | _ => false

variable {Thread : Type} [DecidableEq Thread]

/-- A thread moves to a point without an effect on the globals. -/
def State.move (state : State Thread) (thread : Thread) (point : Point) : State Thread :=
  { state with thread := Function.update state.thread thread ((state.thread thread).goto point) }

def State.acquire (state : State Thread) (thread : Thread) (point : Point) : State Thread :=
  { state.move thread point with mutex := some thread }

/-- `pthread_cond_wait` releases `Mutex` when it blocks its caller. -/
def State.block (state : State Thread) (thread : Thread) : State Thread :=
  { state.move thread .blocked with mutex := none }

/-- The producer stores its data in the buffer. -/
def State.store (state : State Thread) (thread : Thread) (data : Int) : State Thread :=
  { state.move thread .advance with
    buffer := state.buffer.store data
    produced := state.produced ++ [⟨data⟩] }

/-- The consumer reads its data from the buffer. -/
def State.load (state : State Thread) (thread : Thread) : State Thread :=
  { state.move thread .advance with consumed := state.consumed ++ [state.buffer.load] }

/-- A thread executes its statement on `Buf.in` or `Buf.out`. -/
def State.advanceIndex (maxBuf : Nat) (state : State Thread) (thread : Thread) : State Thread :=
  { state.move thread .count with
    buffer := (state.thread thread).role.advance maxBuf state.buffer }

/-- A thread executes its statement on `Buf.counter`. -/
def State.changeCounter (state : State Thread) (thread : Thread) : State Thread :=
  { state.move thread .signal with buffer := (state.thread thread).role.count state.buffer }

/-- A producer signals `NotEmpty` to the consumers and a consumer signals `NotFull` to the producers. -/
def State.signal (state : State Thread) (thread : Thread) (target : Option Thread) : State Thread :=
  let woken := Monitor.wake (fun view => view.goto .woken) state.thread target
  { state with thread := Function.update woken thread ((state.thread thread).goto .unlock) }

/-- `pthread_mutex_unlock` ends the loop body and the loop variable grows. -/
def State.unlock (state : State Thread) (thread : Thread) : State Thread :=
  let view := state.thread thread
  { state with
    mutex := none
    thread := Function.update state.thread thread { view with point := .loop, i := view.i + 1 } }

/-- The next statement of a thread has one outcome except at the producer's data and at the signal. -/
def State.advance (maxBuf nloops : Nat) (state : State Thread) (thread : Thread) :
    Option (State Thread) :=
  let view := state.thread thread
  match view.point with
  | .loop =>
      if view.i < nloops then some (state.move thread .lock) else some (state.move thread .finished)
  | .lock => if state.mutex = none then some (state.acquire thread .check) else none
  | .check =>
      if mustWait maxBuf view.role state.buffer then some (state.block thread)
      else some (state.move thread .access)
  | .woken => if state.mutex = none then some (state.acquire thread .check) else none
  | .access => if view.role = .consumer then some (state.load thread) else none
  | .advance => some (state.advanceIndex maxBuf thread)
  | .count => some (state.changeCounter thread)
  | .unlock => some (state.unlock thread)
  | .blocked | .signal | .finished => none

/-- The step function covers statements, the producer's data, signals, and spurious wake-ups. -/
def State.next [Fintype Thread] (maxBuf nloops : Nat) (state : State Thread) :
    Label Thread → Option (State Thread)
  | .advance thread => state.advance maxBuf nloops thread
  | .produce thread data =>
      if (state.thread thread).point = .access ∧ (state.thread thread).role = .producer then
        some (state.store thread data)
      else none
  | .signal thread target =>
      if (state.thread thread).point = .signal ∧
          Monitor.admits (Local.blockedAs (state.thread thread).role.other) state.thread target = true
      then some (state.signal thread target) else none
  | .spurious thread =>
      if (state.thread thread).point = .blocked then some (state.move thread .woken) else none

/-- The system starts with the zero buffer and each thread at the start of the loop of its role. -/
def system {Thread : Type} [DecidableEq Thread] [Fintype Thread] (maxBuf nloops : Nat)
    (role : Thread → Role) : System (State Thread) (Label Thread) where
  initial state := state = {
    buffer := .zero
    mutex := none
    thread := fun thread => ⟨role thread, .loop, 0⟩
    produced := []
    consumed := [] }
  next := State.next maxBuf nloops

/-- This relation lists the steps of the threads with their guards and effects. -/
inductive Step [Fintype Thread] (maxBuf nloops : Nat) (state : State Thread) :
    Label Thread → State Thread → Prop where
  | enter (thread : Thread) (here : (state.thread thread).point = .loop)
      (more : (state.thread thread).i < nloops) :
      Step maxBuf nloops state (.advance thread) (state.move thread .lock)
  | finish (thread : Thread) (here : (state.thread thread).point = .loop)
      (done : ¬ (state.thread thread).i < nloops) :
      Step maxBuf nloops state (.advance thread) (state.move thread .finished)
  | lock (thread : Thread) (here : (state.thread thread).point = .lock)
      (free : state.mutex = none) :
      Step maxBuf nloops state (.advance thread) (state.acquire thread .check)
  | relock (thread : Thread) (here : (state.thread thread).point = .woken)
      (free : state.mutex = none) :
      Step maxBuf nloops state (.advance thread) (state.acquire thread .check)
  | block (thread : Thread) (here : (state.thread thread).point = .check)
      (wait : mustWait maxBuf (state.thread thread).role state.buffer = true) :
      Step maxBuf nloops state (.advance thread) (state.block thread)
  | pass (thread : Thread) (here : (state.thread thread).point = .check)
      (ready : mustWait maxBuf (state.thread thread).role state.buffer = false) :
      Step maxBuf nloops state (.advance thread) (state.move thread .access)
  | store (thread : Thread) (data : Int) (here : (state.thread thread).point = .access)
      (role : (state.thread thread).role = .producer) :
      Step maxBuf nloops state (.produce thread data) (state.store thread data)
  | load (thread : Thread) (here : (state.thread thread).point = .access)
      (role : (state.thread thread).role = .consumer) :
      Step maxBuf nloops state (.advance thread) (state.load thread)
  | advance (thread : Thread) (here : (state.thread thread).point = .advance) :
      Step maxBuf nloops state (.advance thread) (state.advanceIndex maxBuf thread)
  | count (thread : Thread) (here : (state.thread thread).point = .count) :
      Step maxBuf nloops state (.advance thread) (state.changeCounter thread)
  | signal (thread : Thread) (target : Option Thread)
      (here : (state.thread thread).point = .signal)
      (admitted : Monitor.admits (Local.blockedAs (state.thread thread).role.other) state.thread
        target = true) :
      Step maxBuf nloops state (.signal thread target) (state.signal thread target)
  | unlock (thread : Thread) (here : (state.thread thread).point = .unlock) :
      Step maxBuf nloops state (.advance thread) (state.unlock thread)
  | spurious (thread : Thread) (here : (state.thread thread).point = .blocked) :
      Step maxBuf nloops state (.spurious thread) (state.move thread .woken)

/-- Each statement that a thread executes is one of the listed steps. -/
theorem step_of_advance [Fintype Thread] (maxBuf nloops : Nat) (state later : State Thread)
    (thread : Thread) (taken : state.advance maxBuf nloops thread = some later) :
    Step maxBuf nloops state (.advance thread) later := by
  unfold State.advance at taken
  dsimp only at taken
  split at taken
  case h_1 here =>
      split at taken
      case isTrue more => cases taken; exact .enter thread here more
      case isFalse done => cases taken; exact .finish thread here done
  case h_2 here =>
      split at taken
      case isTrue free => cases taken; exact .lock thread here free
      case isFalse => cases taken
  case h_3 here =>
      split at taken
      case isTrue wait => cases taken; exact .block thread here wait
      case isFalse ready => cases taken; exact .pass thread here (Bool.eq_false_iff.mpr ready)
  case h_4 here =>
      split at taken
      case isTrue free => cases taken; exact .relock thread here free
      case isFalse => cases taken
  case h_5 here =>
      split at taken
      case isTrue role => cases taken; exact .load thread here role
      case isFalse => cases taken
  case h_6 here => cases taken; exact .advance thread here
  case h_7 here => cases taken; exact .count thread here
  case h_8 here => cases taken; exact .unlock thread here
  all_goals cases taken

/-- Each step of the system is one of the listed steps. -/
theorem step_of_next [Fintype Thread] {maxBuf nloops : Nat} {state later : State Thread}
    {label : Label Thread} (taken : state.next maxBuf nloops label = some later) :
    Step maxBuf nloops state label later := by
  cases label with
  | advance thread => exact step_of_advance maxBuf nloops state later thread taken
  | produce thread data =>
      simp only [State.next, Option.ite_none_right_eq_some, Option.some.injEq] at taken
      exact taken.2 ▸ .store thread data taken.1.1 taken.1.2
  | signal thread target =>
      simp only [State.next, Option.ite_none_right_eq_some, Option.some.injEq] at taken
      exact taken.2 ▸ .signal thread target taken.1.1 taken.1.2
  | spurious thread =>
      simp only [State.next, Option.ite_none_right_eq_some, Option.some.injEq] at taken
      exact taken.2 ▸ .spurious thread taken.1

end ProdconsM

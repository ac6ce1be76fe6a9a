import LinuxSystemProgramming.Construction.Semlib2
import LinuxSystemProgramming.Construction.BoundedBuffer

namespace ProdconsS
open Transition BoundedBuffer

/-- The program has one semaphore for free slots, one for filled slots, and one for the buffer. -/
inductive SemName where
  | emptySem
  | fullSem
  | mutexSem
  deriving DecidableEq, Repr

/-- A point names the statement of the loop of `Producer` or `Consumer` that a thread executes next. -/
inductive Point where
  | loop
  | waitSlot
  | waitMutex
  | access
  | advance
  | count
  | postMutex
  | postSlot
  | finished
  | failed
  deriving DecidableEq, Repr

/-- Each thread has its role, its point, and its loop variable `i`. -/
structure Local where
  role : Role
  point : Point
  i : Nat
  deriving DecidableEq, Repr

def Local.goto (view : Local) (point : Point) : Local := { view with point := point }

/-- A producer takes a free slot and a consumer takes a filled slot. -/
def taken : Role → SemName
  | .producer => .emptySem
  | .consumer => .fullSem

/-- A producer gives a filled slot and a consumer gives a free slot. -/
def given (role : Role) : SemName := taken role.other

/-- A thread calls an operation of `semlib2.c` on one semaphore at each of these points. -/
def Local.calls (view : Local) : Option (SemName × Semlib2.Operation) :=
  match view.point with
  | .waitSlot => some (taken view.role, .semWait)
  | .waitMutex => some (.mutexSem, .semWait)
  | .postMutex => some (.mutexSem, .semPost)
  | .postSlot => some (given view.role, .semPost)
  | _ => none

/-- A thread goes on after a successful call, and the loop variable grows after the last one. -/
def Local.succeed (view : Local) : Local :=
  match view.point with
  | .waitSlot => view.goto .waitMutex
  | .waitMutex => view.goto .access
  | .postMutex => view.goto .postSlot
  | .postSlot => { view with point := .loop, i := view.i + 1 }
  | _ => view

/-- A negative result ends the thread by `pthread_exit`. -/
def Local.resume (view : Local) (result : Int) : Local :=
  if result < 0 then view.goto .failed else view.succeed

/-- The state has the globals, the threads, the two sequences, and the slots filled since their last read. -/
structure State (Thread : Type) where
  buffer : BoundedBufferType
  sem : SemName → Semlib2.State Thread
  thread : Thread → Local
  produced : List ItemType
  consumed : List ItemType
  filled : Nat → Bool

/-- A label names the thread that moves, or a step inside an operation on one semaphore. -/
inductive Label (Thread : Type) where
  | advance (thread : Thread)
  | produce (thread : Thread) (data : Int)
  | call (thread : Thread)
  | inside (name : SemName) (label : Semlib2.Label Thread)
  | ret (thread : Thread) (result : Int)
  deriving DecidableEq

/-- A spurious wake-up is the only step that no thread takes by itself. -/
def Label.isSpurious {Thread : Type} : Label Thread → Bool
  | .inside _ (.spurious _) => true
  | _ => false

variable {Thread : Type} [DecidableEq Thread]

/-- A thread changes its own view. -/
def State.setView (state : State Thread) (thread : Thread) (view : Local) : State Thread :=
  { state with thread := Function.update state.thread thread view }

/-- A step inside an operation changes one semaphore. -/
def State.setSem (state : State Thread) (name : SemName) (sem : Semlib2.State Thread) :
    State Thread :=
  { state with sem := Function.update state.sem name sem }

/-- The producer stores its data in the buffer. -/
def State.store (state : State Thread) (thread : Thread) (data : Int) : State Thread :=
  { state.setView thread ((state.thread thread).goto .advance) with
    buffer := state.buffer.store data
    produced := state.produced ++ [⟨data⟩]
    filled := Function.update state.filled state.buffer.inIndex true }

/-- The consumer reads its data from the buffer. -/
def State.load (state : State Thread) (thread : Thread) : State Thread :=
  { state.setView thread ((state.thread thread).goto .advance) with
    consumed := state.consumed ++ [state.buffer.load]
    filled := Function.update state.filled state.buffer.outIndex false }

/-- A thread executes its statement on `Buf.in` or `Buf.out`. -/
def State.advanceIndex (maxBuf : Nat) (state : State Thread) (thread : Thread) : State Thread :=
  { state.setView thread ((state.thread thread).goto .count) with
    buffer := (state.thread thread).role.advance maxBuf state.buffer }

/-- A thread executes its statement on `Buf.counter`. -/
def State.changeCounter (state : State Thread) (thread : Thread) : State Thread :=
  { state.setView thread ((state.thread thread).goto .postMutex) with
    buffer := (state.thread thread).role.count state.buffer }

/-- The statements of the loop outside the calls and the producer's data have one outcome. -/
def State.advance (maxBuf nloops : Nat) (state : State Thread) (thread : Thread) :
    Option (State Thread) :=
  let view := state.thread thread
  match view.point with
  | .loop =>
      if view.i < nloops then some (state.setView thread (view.goto .waitSlot))
      else some (state.setView thread (view.goto .finished))
  | .access => if view.role = .consumer then some (state.load thread) else none
  | .advance => some (state.advanceIndex maxBuf thread)
  | .count => some (state.changeCounter thread)
  | _ => none

/-- The step function covers statements, the producer's data, and the calls of `semlib2.c`. -/
def State.next [Fintype Thread] (maxBuf nloops : Nat) (state : State Thread) :
    Label Thread → Option (State Thread)
  | .advance thread => state.advance maxBuf nloops thread
  | .produce thread data =>
      if (state.thread thread).point = .access ∧ (state.thread thread).role = .producer then
        some (state.store thread data)
      else none
  | .call thread =>
      (state.thread thread).calls.bind fun site =>
        ((state.sem site.1).next (.call thread site.2)).map (state.setSem site.1)
  | .inside name label =>
      if label.internal then ((state.sem name).next label).map (state.setSem name) else none
  | .ret thread result =>
      (state.thread thread).calls.bind fun site =>
        ((state.sem site.1).next (.ret thread site.2 result)).map fun sem =>
          (state.setSem site.1 sem).setView thread ((state.thread thread).resume result)

/-- `main` initializes the semaphores with `MAX_BUF`, 0, and 1. -/
def initialValue (maxBuf : Nat) : SemName → Int
  | .emptySem => maxBuf
  | .fullSem => 0
  | .mutexSem => 1

/-- The system starts after the calls of `sem_init` with each thread at the start of its loop. -/
def system {Thread : Type} [DecidableEq Thread] [Fintype Thread] (maxBuf nloops : Nat)
    (role : Thread → Role) : System (State Thread) (Label Thread) where
  initial state :=
    (∀ name, Semlib2.semInit 0 (initialValue maxBuf name) = some (state.sem name)) ∧
    state = {
      buffer := .zero
      sem := state.sem
      thread := fun thread => ⟨role thread, .loop, 0⟩
      produced := []
      consumed := []
      filled := fun _ => false }
  next := State.next maxBuf nloops

/-- `main` creates one producer and one consumer. -/
def mainSystem (maxBuf nloops : Nat) : System (State Role) (Label Role) := system maxBuf nloops id

/-- This relation lists the steps of the threads with their guards and effects. -/
inductive Step [Fintype Thread] (maxBuf nloops : Nat) (state : State Thread) :
    Label Thread → State Thread → Prop where
  | enter (thread : Thread) (here : (state.thread thread).point = .loop)
      (more : (state.thread thread).i < nloops) :
      Step maxBuf nloops state (.advance thread)
        (state.setView thread ((state.thread thread).goto .waitSlot))
  | finish (thread : Thread) (here : (state.thread thread).point = .loop)
      (done : ¬ (state.thread thread).i < nloops) :
      Step maxBuf nloops state (.advance thread)
        (state.setView thread ((state.thread thread).goto .finished))
  | store (thread : Thread) (data : Int) (here : (state.thread thread).point = .access)
      (role : (state.thread thread).role = .producer) :
      Step maxBuf nloops state (.produce thread data) (state.store thread data)
  | load (thread : Thread) (here : (state.thread thread).point = .access)
      (role : (state.thread thread).role = .consumer) :
      Step maxBuf nloops state (.advance thread) (state.load thread)
  | advance (thread : Thread) (here : (state.thread thread).point = .advance) :
      Step maxBuf nloops state (.advance thread) (state.advanceIndex maxBuf thread)
  | count (thread : Thread) (here : (state.thread thread).point = .count) :
      Step maxBuf nloops state (.advance thread) (state.changeCounter thread)
  | call (thread : Thread) (name : SemName) (operation : Semlib2.Operation)
      (sem : Semlib2.State Thread) (site : (state.thread thread).calls = some (name, operation))
      (taken : (state.sem name).next (.call thread operation) = some sem) :
      Step maxBuf nloops state (.call thread) (state.setSem name sem)
  | inside (name : SemName) (label : Semlib2.Label Thread) (sem : Semlib2.State Thread)
      (internal : label.internal = true) (taken : (state.sem name).next label = some sem) :
      Step maxBuf nloops state (.inside name label) (state.setSem name sem)
  | ret (thread : Thread) (result : Int) (name : SemName) (operation : Semlib2.Operation)
      (sem : Semlib2.State Thread) (site : (state.thread thread).calls = some (name, operation))
      (taken : (state.sem name).next (.ret thread operation result) = some sem) :
      Step maxBuf nloops state (.ret thread result)
        ((state.setSem name sem).setView thread ((state.thread thread).resume result))

/-- Each statement that a thread executes is one of the listed steps. -/
theorem step_of_advance [Fintype Thread] (maxBuf nloops : Nat) (state later : State Thread)
    (thread : Thread) (taken : state.advance maxBuf nloops thread = some later) :
    Step maxBuf nloops state (.advance thread) later := by
  unfold State.advance at taken
  dsimp only at taken
  split at taken
  case h_1 here =>
      split at taken
      case isTrue more => cases taken; exact .enter thread here more
      case isFalse done => cases taken; exact .finish thread here done
  case h_2 here =>
      split at taken
      case isTrue role => cases taken; exact .load thread here role
      case isFalse => cases taken
  case h_3 here => cases taken; exact .advance thread here
  case h_4 here => cases taken; exact .count thread here
  case h_5 => cases taken

/-- Each step of the system is one of the listed steps. -/
theorem step_of_next [Fintype Thread] {maxBuf nloops : Nat} {state later : State Thread}
    {label : Label Thread} (taken : state.next maxBuf nloops label = some later) :
    Step maxBuf nloops state label later := by
  cases label with
  | advance thread => exact step_of_advance maxBuf nloops state later thread taken
  | produce thread data =>
      simp only [State.next, Option.ite_none_right_eq_some, Option.some.injEq] at taken
      exact taken.2 ▸ .store thread data taken.1.1 taken.1.2
  | call thread =>
      simp only [State.next, Option.bind_eq_some_iff, Option.map_eq_some_iff] at taken
      obtain ⟨⟨name, operation⟩, site, sem, called, rfl⟩ := taken
      exact .call thread name operation sem site called
  | inside name label =>
      simp only [State.next, Option.ite_none_right_eq_some, Option.map_eq_some_iff] at taken
      obtain ⟨internal, sem, moved, rfl⟩ := taken
      exact .inside name label sem internal moved
  | ret thread result =>
      simp only [State.next, Option.bind_eq_some_iff, Option.map_eq_some_iff] at taken
      obtain ⟨⟨name, operation⟩, site, sem, returned, rfl⟩ := taken
      exact .ret thread result name operation sem site returned

end ProdconsS

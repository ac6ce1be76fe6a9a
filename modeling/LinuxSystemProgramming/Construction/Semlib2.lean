import LinuxSystemProgramming.Library.Transition
import LinuxSystemProgramming.Library.Monitor

namespace Semlib2
open Transition

/-- These are the operations of `semlib2.c` that threads call on one semaphore. -/
inductive Operation where
  | semWait
  | semTrywait
  | semPost
  deriving DecidableEq, Repr

/-- A point names the statement of `semlib2.c` that a thread executes next. -/
inductive Point where
  | outside
  | waitLock
  | waitCheck
  | waitBlocked
  | waitWoken
  | waitDecrement
  | waitUnlock
  | tryLock
  | tryCheck
  | tryRefuse
  | tryDecrement
  | tryUnlock
  | postLock
  | postSignal
  | postIncrement
  | postUnlock
  | returned (operation : Operation) (result : Int)
  deriving DecidableEq, Repr

/-- Each operation starts with `pthread_mutex_lock`. -/
def Operation.entry : Operation → Point
  | .semWait => .waitLock
  | .semTrywait => .tryLock
  | .semPost => .postLock

/-- A thread at these points holds the mutex of the semaphore. -/
def Point.locked : Point → Bool
  | .waitCheck | .waitDecrement | .waitUnlock => true
  | .tryCheck | .tryRefuse | .tryDecrement | .tryUnlock => true
  | .postSignal | .postIncrement | .postUnlock => true
  | _ => false

/-- A blocked thread waits in `pthread_cond_wait` and no wake-up has reached it. -/
def Point.blocked : Point → Bool
  | .waitBlocked => true
  | _ => false

/-- A woken thread must acquire the mutex again inside `pthread_cond_wait`. -/
def Point.woken : Point → Bool
  | .waitWoken => true
  | _ => false

/-- The state has the fields of `sem_t`, the threads' points, and counters of past effects and successes. -/
structure State (Thread : Type) where
  sval : Int
  mutex : Option Thread
  point : Thread → Point
  increments : Nat
  decrements : Nat
  returned : Operation → Nat

/-- `sem_init` refuses a shared semaphore and otherwise stores the value with all threads outside. -/
def semInit {Thread : Type} (pshared value : Int) : Option (State Thread) :=
  if pshared ≠ 0 then none
  else some {
    sval := value
    mutex := none
    point := fun _ => .outside
    increments := 0
    decrements := 0
    returned := fun _ => 0 }

/-- An initialised semaphore has its value and no thread inside an operation. -/
theorem semInit_eq {Thread : Type} {value : Int} {state : State Thread}
    (initialized : semInit 0 value = some state) :
    state = ⟨value, none, fun _ => .outside, 0, 0, fun _ => 0⟩ := by
  simp only [semInit, ne_eq, not_true_eq_false, ite_false, Option.some.injEq] at initialized
  exact initialized.symm

/-- A label names the thread that moves and the choices that the source leaves open. -/
inductive Label (Thread : Type) where
  | call (thread : Thread) (operation : Operation)
  | advance (thread : Thread)
  | signal (thread : Thread) (target : Option Thread)
  | spurious (thread : Thread)
  | ret (thread : Thread) (operation : Operation) (result : Int)
  deriving DecidableEq

/-- The operations take these steps themselves, and their callers take the others. -/
def Label.internal {Thread : Type} : Label Thread → Bool
  | .call _ _ | .ret _ _ _ => false
  | .advance _ | .signal _ _ | .spurious _ => true

variable {Thread : Type} [DecidableEq Thread]

/-- A thread moves without an effect on the semaphore. -/
def State.move (state : State Thread) (thread : Thread) (point : Point) : State Thread :=
  { state with point := Function.update state.point thread point }

/-- A thread acquires the mutex. -/
def State.acquire (state : State Thread) (thread : Thread) (point : Point) : State Thread :=
  { state.move thread point with mutex := some thread }

/-- A thread releases the mutex. -/
def State.release (state : State Thread) (thread : Thread) (point : Point) : State Thread :=
  { state.move thread point with mutex := none }

/-- A thread executes `sem->sval--`. -/
def State.decrement (state : State Thread) (thread : Thread) (point : Point) : State Thread :=
  { state.move thread point with sval := state.sval - 1, decrements := state.decrements + 1 }

/-- A thread executes `sem->sval++`. -/
def State.increment (state : State Thread) (thread : Thread) (point : Point) : State Thread :=
  { state.move thread point with sval := state.sval + 1, increments := state.increments + 1 }

/-- A thread executes `pthread_cond_signal` and the target moves to the mutex queue. -/
def State.signal (state : State Thread) (thread : Thread) (target : Option Thread) : State Thread :=
  let point := Monitor.wake (fun _ => .waitWoken) state.point target
  { state with point := Function.update point thread .postIncrement }

/-- A thread leaves its operation and the state counts each operation that returned zero. -/
def State.leave (state : State Thread) (thread : Thread) (operation : Operation) (result : Int) :
    State Thread :=
  let successes := state.returned operation + if result = 0 then 1 else 0
  { state.move thread .outside with
    returned := Function.update state.returned operation successes }

/-- The next statement of a thread has one outcome except at the signal and the return. -/
def State.advance (state : State Thread) (thread : Thread) : Option (State Thread) :=
  match state.point thread with
  | .waitLock => if state.mutex = none then some (state.acquire thread .waitCheck) else none
  | .waitCheck =>
      if state.sval = 0 then some (state.release thread .waitBlocked)
      else some (state.move thread .waitDecrement)
  | .waitWoken => if state.mutex = none then some (state.acquire thread .waitCheck) else none
  | .waitDecrement => some (state.decrement thread .waitUnlock)
  | .waitUnlock => some (state.release thread (.returned .semWait 0))
  | .tryLock => if state.mutex = none then some (state.acquire thread .tryCheck) else none
  | .tryCheck =>
      if state.sval = 0 then some (state.move thread .tryRefuse)
      else some (state.move thread .tryDecrement)
  | .tryRefuse => some (state.release thread (.returned .semTrywait (-1)))
  | .tryDecrement => some (state.decrement thread .tryUnlock)
  | .tryUnlock => some (state.release thread (.returned .semTrywait 0))
  | .postLock => if state.mutex = none then some (state.acquire thread .postSignal) else none
  | .postIncrement => some (state.increment thread .postUnlock)
  | .postUnlock => some (state.release thread (.returned .semPost 0))
  | .outside | .waitBlocked | .postSignal | .returned _ _ => none

/-- The step function covers calls, statements, signals, spurious wake-ups, and returns. -/
def State.next [Fintype Thread] (state : State Thread) : Label Thread → Option (State Thread)
  | .call thread operation =>
      if state.point thread = .outside then some (state.move thread operation.entry) else none
  | .advance thread => state.advance thread
  | .signal thread target =>
      if state.point thread = .postSignal ∧ Monitor.admits Point.blocked state.point target = true
      then some (state.signal thread target) else none
  | .spurious thread =>
      if state.point thread = .waitBlocked then some (state.move thread .waitWoken) else none
  | .ret thread operation result =>
      if state.point thread = .returned operation result then
        some (state.leave thread operation result)
      else none

/-- The system starts after `sem_init` with `pshared = 0` and a value of at least zero. -/
def system (Thread : Type) [DecidableEq Thread] [Fintype Thread] (value : Int) :
    System (State Thread) (Label Thread) where
  initial state := 0 ≤ value ∧ semInit 0 value = some state
  next := State.next

/-- This relation lists the steps of the semaphore with their guards and effects. -/
inductive Step [Fintype Thread] (state : State Thread) : Label Thread → State Thread → Prop where
  | call (thread : Thread) (operation : Operation) (here : state.point thread = .outside) :
      Step state (.call thread operation) (state.move thread operation.entry)
  | waitLock (thread : Thread) (here : state.point thread = .waitLock)
      (free : state.mutex = none) :
      Step state (.advance thread) (state.acquire thread .waitCheck)
  | waitBlock (thread : Thread) (here : state.point thread = .waitCheck)
      (empty : state.sval = 0) :
      Step state (.advance thread) (state.release thread .waitBlocked)
  | waitPass (thread : Thread) (here : state.point thread = .waitCheck)
      (present : state.sval ≠ 0) :
      Step state (.advance thread) (state.move thread .waitDecrement)
  | waitRelock (thread : Thread) (here : state.point thread = .waitWoken)
      (free : state.mutex = none) :
      Step state (.advance thread) (state.acquire thread .waitCheck)
  | waitDecrement (thread : Thread) (here : state.point thread = .waitDecrement) :
      Step state (.advance thread) (state.decrement thread .waitUnlock)
  | waitUnlock (thread : Thread) (here : state.point thread = .waitUnlock) :
      Step state (.advance thread) (state.release thread (.returned .semWait 0))
  | tryLock (thread : Thread) (here : state.point thread = .tryLock)
      (free : state.mutex = none) :
      Step state (.advance thread) (state.acquire thread .tryCheck)
  | tryFail (thread : Thread) (here : state.point thread = .tryCheck)
      (empty : state.sval = 0) :
      Step state (.advance thread) (state.move thread .tryRefuse)
  | tryPass (thread : Thread) (here : state.point thread = .tryCheck)
      (present : state.sval ≠ 0) :
      Step state (.advance thread) (state.move thread .tryDecrement)
  | tryRefuse (thread : Thread) (here : state.point thread = .tryRefuse) :
      Step state (.advance thread) (state.release thread (.returned .semTrywait (-1)))
  | tryDecrement (thread : Thread) (here : state.point thread = .tryDecrement) :
      Step state (.advance thread) (state.decrement thread .tryUnlock)
  | tryUnlock (thread : Thread) (here : state.point thread = .tryUnlock) :
      Step state (.advance thread) (state.release thread (.returned .semTrywait 0))
  | postLock (thread : Thread) (here : state.point thread = .postLock)
      (free : state.mutex = none) :
      Step state (.advance thread) (state.acquire thread .postSignal)
  | postSignal (thread : Thread) (target : Option Thread)
      (here : state.point thread = .postSignal)
      (admitted : Monitor.admits Point.blocked state.point target = true) :
      Step state (.signal thread target) (state.signal thread target)
  | postIncrement (thread : Thread) (here : state.point thread = .postIncrement) :
      Step state (.advance thread) (state.increment thread .postUnlock)
  | postUnlock (thread : Thread) (here : state.point thread = .postUnlock) :
      Step state (.advance thread) (state.release thread (.returned .semPost 0))
  | spurious (thread : Thread) (here : state.point thread = .waitBlocked) :
      Step state (.spurious thread) (state.move thread .waitWoken)
  | ret (thread : Thread) (operation : Operation) (result : Int)
      (here : state.point thread = .returned operation result) :
      Step state (.ret thread operation result) (state.leave thread operation result)

/-- Each statement that a thread executes is one of the listed steps. -/
theorem step_of_advance [Fintype Thread] (state later : State Thread) (thread : Thread)
    (taken : state.advance thread = some later) : Step state (.advance thread) later := by
  unfold State.advance at taken
  split at taken
  case h_1 here =>
      split at taken
      case isTrue free => cases taken; exact .waitLock thread here free
      case isFalse => cases taken
  case h_2 here =>
      split at taken
      case isTrue empty => cases taken; exact .waitBlock thread here empty
      case isFalse present => cases taken; exact .waitPass thread here present
  case h_3 here =>
      split at taken
      case isTrue free => cases taken; exact .waitRelock thread here free
      case isFalse => cases taken
  case h_4 here => cases taken; exact .waitDecrement thread here
  case h_5 here => cases taken; exact .waitUnlock thread here
  case h_6 here =>
      split at taken
      case isTrue free => cases taken; exact .tryLock thread here free
      case isFalse => cases taken
  case h_7 here =>
      split at taken
      case isTrue empty => cases taken; exact .tryFail thread here empty
      case isFalse present => cases taken; exact .tryPass thread here present
  case h_8 here => cases taken; exact .tryRefuse thread here
  case h_9 here => cases taken; exact .tryDecrement thread here
  case h_10 here => cases taken; exact .tryUnlock thread here
  case h_11 here =>
      split at taken
      case isTrue free => cases taken; exact .postLock thread here free
      case isFalse => cases taken
  case h_12 here => cases taken; exact .postIncrement thread here
  case h_13 here => cases taken; exact .postUnlock thread here
  all_goals cases taken

/-- Each step of the system is one of the listed steps. -/
theorem step_of_next [Fintype Thread] {state later : State Thread} {label : Label Thread}
    (taken : state.next label = some later) : Step state label later := by
  cases label with
  | call thread operation =>
      simp only [State.next, Option.ite_none_right_eq_some, Option.some.injEq] at taken
      exact taken.2 ▸ .call thread operation taken.1
  | advance thread => exact step_of_advance state later thread taken
  | signal thread target =>
      simp only [State.next, Option.ite_none_right_eq_some, Option.some.injEq] at taken
      exact taken.2 ▸ .postSignal thread target taken.1.1 taken.1.2
  | spurious thread =>
      simp only [State.next, Option.ite_none_right_eq_some, Option.some.injEq] at taken
      exact taken.2 ▸ .spurious thread taken.1
  | ret thread operation result =>
      simp only [State.next, Option.ite_none_right_eq_some, Option.some.injEq] at taken
      exact taken.2 ▸ .ret thread operation result taken.1

end Semlib2

import LinuxSystemProgramming.Library.Transition
import Mathlib.Logic.Function.Basic

namespace AtomicSemaphore
open Transition

/-- A counting semaphore has a blocking take, an attempted take, and a release. -/
inductive Operation where
  | wait
  | trywait
  | post
  deriving DecidableEq, Repr

/-- Each caller is idle, waits for its effect, or waits for its return with a result. -/
inductive Phase where
  | idle
  | pending (operation : Operation)
  | done (operation : Operation) (result : Int)
  deriving DecidableEq, Repr

structure State (Thread : Type) where
  value : Nat
  phase : Thread → Phase

inductive Label (Thread : Type) where
  | call (thread : Thread) (operation : Operation)
  | effect (thread : Thread)
  | ret (thread : Thread) (operation : Operation) (result : Int)
  deriving DecidableEq

/-- The clients of a semaphore see its calls and returns. -/
inductive Event (Thread : Type) where
  | called (thread : Thread) (operation : Operation)
  | returned (thread : Thread) (operation : Operation) (result : Int)
  deriving DecidableEq

/-- The effect is atomic: a wait needs a positive value, and only a failed attempt returns -1. -/
def Operation.effect : Operation → Nat → Option (Nat × Int)
  | .wait, 0 => none
  | .wait, value + 1 => some (value, 0)
  | .trywait, 0 => some (0, -1)
  | .trywait, value + 1 => some (value, 0)
  | .post, value => some (value + 1, 0)

variable {Thread : Type} [DecidableEq Thread]

def State.next (state : State Thread) : Label Thread → Option (State Thread)
  | .call thread operation =>
      if state.phase thread = .idle then
        some { state with phase := Function.update state.phase thread (.pending operation) }
      else none
  | .effect thread =>
      match state.phase thread with
      | .pending operation =>
          (operation.effect state.value).map fun answer =>
            { value := answer.1
              phase := Function.update state.phase thread (.done operation answer.2) }
      | _ => none
  | .ret thread operation result =>
      if state.phase thread = .done operation result then
        some { state with phase := Function.update state.phase thread .idle }
      else none

/-- The atomic semaphore starts with all callers idle. -/
def system (Thread : Type) [DecidableEq Thread] (value : Nat) :
    System (State Thread) (Label Thread) where
  initial state := state = ⟨value, fun _ => .idle⟩
  next := State.next

/-- A client sees the call and the return but not the instant of the effect. -/
def shown : Label Thread → List (Event Thread)
  | .call thread operation => [.called thread operation]
  | .effect _ => []
  | .ret thread operation result => [.returned thread operation result]

/-- A call makes its caller wait for the effect. -/
theorem next_call (state : State Thread) (thread : Thread) (operation : Operation)
    (idle : state.phase thread = .idle) :
    state.next (.call thread operation) =
      some { state with phase := Function.update state.phase thread (.pending operation) } := by
  simp [State.next, idle]

/-- An effect changes the value and records the result of its caller. -/
theorem next_effect (state : State Thread) (thread : Thread) (operation : Operation) (value : Nat)
    (result : Int) (pending : state.phase thread = .pending operation)
    (effect : operation.effect state.value = some (value, result)) :
    state.next (.effect thread) =
      some ⟨value, Function.update state.phase thread (.done operation result)⟩ := by
  simp [State.next, pending, effect]

/-- A return makes its caller idle. -/
theorem next_ret (state : State Thread) (thread : Thread) (operation : Operation) (result : Int)
    (done : state.phase thread = .done operation result) :
    state.next (.ret thread operation result) =
      some { state with phase := Function.update state.phase thread .idle } := by
  simp [State.next, done]

end AtomicSemaphore

import Mathlib.Data.List.GetD
import LinuxSystemProgramming.Proof.Rpc.Turns

namespace Rpc
open Transition Semlib

/-- Each client posts the requests and never waits for them, so its adjustment is not positive. -/
def Owed (state : State Nat) : Prop :=
  ∀ semaphore, state.sema1 = some semaphore → ∀ client, semaphore.semadj (.app client) ≤ 0

section Steps
variable {number : Nat → Int} {state later : State Nat}

/-- An exit leaves no request when none is pending. -/
theorem Owed.undo (owed : Owed state) (client : Nat) (none : count state.sema1 = 0) :
    count (state.sema1.map (undo (.app client))) = 0 := by
  cases present : state.sema1 with
  | none => rfl
  | some semaphore =>
      have own := owed semaphore present client
      have zero : semaphore.value = 0 := by simpa [count, present] using none
      simp only [count, Option.map_some, Option.getD_some, Semlib.undo, zero]
      omega

end Steps

/-- A client at these points has not written or has exited. -/
def AppPoint.quiet : AppPoint → Bool
  | .unstarted | .write | .exited => true
  | _ => false

/-- The first client has not exited and all others wait for their turn. -/
structure First (numbers : List Int) (state : State Nat) : Prop where
  serial : Serial (fun client => numbers.getD client 0) state
  running : state.app 0 ≠ .exited
  waiting : ∀ client, 0 < client → state.app client = .unstarted

/-- After the exit of the first client no request is left, or the word is the one number of the others. -/
structure Later (numbers : List Int) (same : Int) (state : State Nat) : Prop where
  first : state.app 0 = .exited
  defined : rpcSum (numbers.getD 0 0) ≠ none
  answered : Answered (fun client => numbers.getD client 0) state
  word : (state.rpc = .wait ∧ count state.sema1 = 0 ∧ ∀ client, (state.app client).quiet = true) ∨
    (state.shm = same ∧ rpcSum same = some same ∧ ∀ num, state.rpc = .sum num → num = same)

/-- The invariant follows the clients from the first one to the last one. -/
structure InTurn (numbers : List Int) (same : Int) (state : State Nat) : Prop where
  looping : state.rpc.looping = true
  owed : Owed state
  inside : ∀ client, state.app client ≠ .unstarted → client < numbers.length
  phase : First numbers state ∨ Later numbers same state

section Phases
variable {numbers : List Int} {same : Int} {state later : State Nat}

/-- The invariant gives each client its own sum. -/
theorem InTurn.answered (inTurn : InTurn numbers same state) :
    Answered (fun client => numbers.getD client 0) state := by
  rcases inTurn.phase with first | after
  · exact first.serial.answered
  · exact after.answered

end Phases

end Rpc

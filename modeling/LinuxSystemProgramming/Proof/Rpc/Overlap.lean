import LinuxSystemProgramming.Proof.Rpc.Session
import Mathlib.Data.Fintype.Basic

namespace Rpc
open Transition Semlib

variable {App : Type} [DecidableEq App]

omit [DecidableEq App] in
/-- The client does not exit. -/
def Label.stays : Label App → Bool
  | .exit _ => false
  | _ => true

/-- Each result that a client returns is the server's sum for the number of that client. -/
def Answered (number : App → Int) (state : State App) : Prop :=
  ∀ client result, state.app client = .returned result → rpcSum (number client) = some result

/-- The clients run against an initialized server and none of them exits. -/
def overlapSystem (number : App → Int) : System (State App) (Label App) :=
  (readySystem number).restrict fun _ label => label.stays

/-- A client writes its number only while no other client is between its write and its read. -/
def writesAlone [Fintype App] (state : State App) : Label App → Bool
  | .app client =>
      decide (state.app client = .write → ∀ other, (state.app other).inSession = false)
  | _ => true

omit [DecidableEq App] in
/-- The initialized server and its idle clients are serial. -/
theorem serial_ready (number : App → Int) (shm : Int) : Serial number (ready shm) where
  answered client result returned := by cases returned
  kept := rfl
  session := Or.inl ⟨fun _ => rfl, rfl, rfl, rfl, rfl⟩

/-- Two clients overlap, and the first one returns the sum for the number of the second one. -/
theorem overlap_fails : ∃ state : State (Fin 2),
    (overlapSystem fun client => if client = 0 then 5 else 7).Reachable state ∧
      state.app 0 = .returned 28 ∧ rpcSum 5 = some 15 ∧ state.overwritten = true := by
  obtain ⟨state, reached, facts⟩ := System.exists_reachable
    (overlapSystem fun client : Fin 2 => if client = 0 then 5 else 7) (ready 0) ⟨0, rfl⟩
    [.app 0, .app 0, .app 1, .app 1, .app 0, .app 0, .rpc, .rpc, .rpc, .rpc, .app 0, .app 0, .app 0]
    (fun state => decide (state.app 0 = .returned 28) && state.overwritten) (by decide)
  simp only [Bool.and_eq_true, decide_eq_true_eq] at facts
  exact ⟨state, reached, facts.1, by decide, facts.2⟩

/-- If each client writes alone, then each one receives its own sum and no request is overwritten. -/
theorem answersAlone [Fintype App] (number : App → Int) (state : State App)
    (reached : ((overlapSystem number).restrict writesAlone).Reachable state) :
    Answered number state ∧ state.overwritten = false := by
  have holds : Serial number state ∧ state.rpc.looping = true := by
    apply reached.invariant fun state => Serial number state ∧ state.rpc.looping = true
    · rintro state ⟨shm, rfl⟩
      exact ⟨serial_ready number shm, rfl⟩
    · intro state label later _ before taken
      obtain ⟨alone, continued⟩ := (System.restrict_next _ _ _ _ _).mp taken
      obtain ⟨stays, moved⟩ := (System.restrict_next _ _ _ _ _).mp continued
      have step := step_of_next moved
      refine ⟨serial_step before.1 ⟨?_, ?_, ?_⟩ step, looping_step before.2 step⟩
      · rintro client rfl
        cases stays
      · rintro client rfl
        simpa only [writesAlone, decide_eq_true_eq] using alone
      · intro client _ _
        exact reset_of_looping before.2
  exact ⟨holds.1.answered, holds.1.kept⟩

/-- Two clients run one after the other, and each one receives its own sum. -/
theorem answersAlone_run : ∃ state : State (Fin 2), state.app 0 = .returned 15 ∧
    state.app 1 = .returned 28 ∧
    Answered (fun client => if client = 0 then 5 else 7) state ∧ state.overwritten = false := by
  let session (client : Fin 2) : List (Label (Fin 2)) :=
    [.app client, .app client, .app client, .app client, .app client, .rpc, .rpc, .rpc, .rpc,
      .app client, .app client]
  obtain ⟨state, reached, facts⟩ := System.exists_reachable
    ((overlapSystem fun client : Fin 2 => if client = 0 then 5 else 7).restrict writesAlone) (ready 0)
    ⟨0, rfl⟩ (session 0 ++ session 1)
    (fun state => decide (state.app 0 = .returned 15 ∧ state.app 1 = .returned 28)) (by decide)
  simp only [decide_eq_true_eq] at facts
  exact ⟨state, facts.1, facts.2, answersAlone _ state reached⟩

end Rpc

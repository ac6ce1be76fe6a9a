import LinuxSystemProgramming.Proof.Rpc.Overlap

namespace Rpc
open Transition Semlib

/-- One client and the server start in any order and neither of them exits. -/
def startupSystem (number : Int) : System (State Unit) (Label Unit) :=
  (freshSystem fun _ => number).restrict fun _ label => label.stays

/-- The client posts its request only after the server has stored zero in the first semaphore. -/
def postsAfterReset (state : State Unit) : Label Unit → Bool
  | .app client => decide (state.app client = .post → state.rpc.reset = true)
  | _ => true

/-- The client waits for a reply and the server waits for a request, and both semaphores are zero. -/
def Deadlocked (state : State Unit) : Prop :=
  state.app () = .wait ∧ state.rpc = .wait ∧ count state.sema1 = 0 ∧ count state.sema2 = 0

/-- A state without semaphores and with idle processes is serial. -/
theorem serial_fresh (number shm : Int) : Serial (fun _ : Unit => number) (fresh shm) where
  answered client result returned := by cases returned
  kept := rfl
  session := Or.inl ⟨fun _ => rfl, rfl, rfl, rfl, rfl⟩

/-- A serial state is not deadlocked. -/
theorem Serial.not_deadlocked {number : Unit → Int} {state : State Unit}
    (serial : Serial number state) : ¬ Deadlocked state := by
  rintro ⟨client, server, requests, replies⟩
  obtain ⟨stage, _, session⟩ := serial.running () (by rw [client]; rfl)
  have stands := session.atClient
  have serves := session.atServer
  have posted := session.requests
  have replied := session.replies
  rw [client] at stands
  rw [server] at serves
  rw [requests] at posted
  rw [replies] at replied
  cases stage <;>
    simp [Stage.client, Stage.server, Stage.requests, Stage.replies] at stands serves posted replied

/-- The client posts first, the server resets the semaphore, and both wait for ever. -/
theorem startup_fails : ∃ state : State Unit,
    (startupSystem 5).Reachable state ∧ Deadlocked state := by
  obtain ⟨state, reached, facts⟩ := (startupSystem 5).exists_reachable (fresh 0) ⟨0, rfl⟩
    [.app (), .app (), .app (), .app (), .rpc, .rpc, .rpc, .rpc, .app ()]
    (fun state => decide (state.app () = .wait ∧ state.rpc = .wait ∧ count state.sema1 = 0 ∧
      count state.sema2 = 0)) (by decide)
  simp only [decide_eq_true_eq] at facts
  exact ⟨state, reached, facts⟩

/-- If the client posts after the reset, then no request is lost and the client receives its sum. -/
theorem keepsRequest (number : Int) (state : State Unit)
    (reached : ((startupSystem number).restrict postsAfterReset).Reachable state) :
    ¬ Deadlocked state ∧ Answered (fun _ => number) state := by
  have serial : Serial (fun _ => number) state := by
    apply reached.invariant (Serial fun _ => number)
    · rintro state ⟨shm, rfl⟩
      exact serial_fresh number shm
    · intro state label later _ serial taken
      obtain ⟨late, continued⟩ := (System.restrict_next _ _ _ _ _).mp taken
      obtain ⟨stays, moved⟩ := (System.restrict_next _ _ _ _ _).mp continued
      refine serial_step serial ⟨?_, ?_, ?_⟩ (step_of_next moved)
      · rintro client rfl
        cases stays
      · intro client _ here other
        rw [show other = client from rfl, here]
        rfl
      · rintro client rfl
        simpa only [postsAfterReset, decide_eq_true_eq] using late
  exact ⟨serial.not_deadlocked, serial.answered⟩

/-- The client starts first but posts after the reset, and it receives its sum. -/
theorem keepsRequest_run : ∃ state : State Unit, state.app () = .returned 15 ∧
    ¬ Deadlocked state ∧ Answered (fun _ => 5) state := by
  obtain ⟨state, reached, facts⟩ := ((startupSystem 5).restrict postsAfterReset).exists_reachable
    (fresh 0) ⟨0, rfl⟩
    [.app (), .app (), .app (), .rpc, .rpc, .rpc, .app (), .app (), .rpc, .rpc, .rpc, .rpc, .rpc,
      .app (), .app ()]
    (fun state => decide (state.app () = .returned 15)) (by decide)
  simp only [decide_eq_true_eq] at facts
  exact ⟨state, facts, keepsRequest 5 state reached⟩

end Rpc

import LinuxSystemProgramming.Proof.BoundedBuffer
import LinuxSystemProgramming.Construction.ProdconsM

namespace ProdconsM
open Transition Monitor Tally BoundedBuffer

variable {Thread : Type} [DecidableEq Thread]

/-- The mutex owner is the thread whose next statement lies between lock and unlock. -/
def Owned (state : State Thread) : Prop := Exclusive state.mutex Local.locked state.thread

/-- A blocked or woken view holds no mutex. -/
theorem locked_wake (role : Role) (view : Local) (blocked : view.blockedAs role = true) :
    (view.goto .woken).locked = view.locked := by
  simp only [Local.blockedAs, decide_eq_true_eq] at blocked
  simp [Local.locked, Local.goto, blocked.2]

section Steps
variable [Fintype Thread] {maxBuf nloops : Nat}

/-- A signal does not wake its own caller. -/
theorem wake_self {state : State Thread} {thread : Thread} {target : Option Thread}
    (here : (state.thread thread).point = .signal)
    (admitted : admits (Local.blockedAs (state.thread thread).role.other) state.thread target = true) :
    wake (fun view => view.goto .woken) state.thread target thread = state.thread thread :=
  wake_of_not_blocked admitted (by simp [Local.blockedAs, here])

/-- Each step keeps the mutex with the thread inside the locked statements. -/
theorem owned_step {state later : State Thread} {label : Label Thread} (owned : Owned state)
    (step : Step maxBuf nloops state label later) : Owned later := by
  cases step with
  | enter thread here _ | finish thread here _ | pass thread here _ =>
      exact owned.keep thread _ (by simp [Local.locked, Local.goto, here])
  | lock thread here free | relock thread here free =>
      have unowned : Exclusive none Local.locked state.thread := free ▸ owned
      exact unowned.acquire thread _ rfl
  | block thread here wait => exact owned.release thread _ (by simp [Local.locked, here]) rfl
  | store thread data here role => exact owned.keep thread _ (by simp [Local.locked, Local.goto, here])
  | load thread here role => exact owned.keep thread _ (by simp [Local.locked, Local.goto, here])
  | advance thread here | count thread here | spurious thread here =>
      exact owned.keep thread _ (by simp [Local.locked, Local.goto, here])
  | unlock thread here => exact owned.release thread _ (by simp [Local.locked, here]) rfl
  | signal thread target here admitted =>
      have woken : Exclusive state.mutex Local.locked
          (wake (fun view => view.goto .woken) state.thread target) :=
        owned.wake _ target admitted (locked_wake _)
      exact woken.keep thread _ (by
        rw [wake_self here admitted]
        simp [Local.locked, Local.goto, here])

end Steps

/-- This function completes the statements that the owner still has to execute on the buffer. -/
def Local.settle (maxBuf : Nat) (view : Local) (buffer : BoundedBufferType) : BoundedBufferType :=
  match view.point with
  | .advance => view.role.count (view.role.advance maxBuf buffer)
  | .count => view.role.count buffer
  | _ => buffer

/-- The settled buffer is the buffer after the owner completes its statements. -/
def State.settled (maxBuf : Nat) (state : State Thread) : BoundedBufferType :=
  match state.mutex with
  | none => state.buffer
  | some owner => (state.thread owner).settle maxBuf state.buffer

/-- A thread at its access has passed its check and the buffer has not changed since then. -/
def Ready (maxBuf : Nat) (state : State Thread) : Prop :=
  ∀ thread, (state.thread thread).point = .access →
    mustWait maxBuf (state.thread thread).role state.buffer = false

/-- The settled buffer represents the produced items that no thread has consumed. -/
def Queued (maxBuf : Nat) (state : State Thread) : Prop :=
  ∃ queue, state.produced = state.consumed ++ queue ∧ Represents maxBuf (state.settled maxBuf) queue

omit [DecidableEq Thread] in
/-- A thread inside the locked statements settles the buffer. -/
theorem settled_of_locked (maxBuf : Nat) {state : State Thread} (owned : Owned state)
    (thread : Thread) (inside : (state.thread thread).locked = true) :
    state.settled maxBuf = (state.thread thread).settle maxBuf state.buffer := by
  simp only [State.settled, (owned thread).mp inside]

/-- A step that keeps the buffer keeps the other threads ready. -/
theorem Ready.update {maxBuf : Nat} {state : State Thread} (ready : Ready maxBuf state)
    (thread : Thread) (view : Local)
    (own : view.point = .access → mustWait maxBuf view.role state.buffer = false) :
    ∀ other, (Function.update state.thread thread view other).point = .access →
      mustWait maxBuf (Function.update state.thread thread view other).role state.buffer = false :=
  (Function.forall_update_iff state.thread fun _ view =>
    view.point = .access → mustWait maxBuf view.role state.buffer = false).mpr
    ⟨own, fun other _ => ready other⟩

/-- No thread is at its access while the mover leaves it with the mutex held. -/
theorem no_access {state : State Thread} (owned : Owned state) {thread : Thread}
    (inside : (state.thread thread).locked = true) (view : Local) (leaves : view.point ≠ .access) :
    ∀ other, (Function.update state.thread thread view other).point ≠ .access := by
  refine (Function.forall_update_iff state.thread fun _ view => view.point ≠ .access).mpr
    ⟨leaves, ?_⟩
  intro other different access
  exact different (owned.unique (by simp [Local.locked, access]) inside)

/-- A move outside the locked statements keeps the settled buffer. -/
theorem settled_outside (maxBuf : Nat) {state : State Thread} (owned : Owned state)
    (thread : Thread) (point : Point) (before : (state.thread thread).locked = false) :
    (state.move thread point).settled maxBuf = state.settled maxBuf := by
  unfold State.settled
  cases owner : state.mutex with
  | none => simp [State.move, owner]
  | some other =>
      have different : other ≠ thread := by
        intro equal
        have inside := (owned other).mpr owner
        rw [equal, before] at inside
        cases inside
      simp [State.move, owner, different]

section Steps
variable [Fintype Thread] {maxBuf nloops : Nat}

/-- Each step keeps the threads ready. -/
theorem ready_step {state later : State Thread} {label : Label Thread} (owned : Owned state)
    (ready : Ready maxBuf state) (step : Step maxBuf nloops state label later) :
    Ready maxBuf later := by
  cases step with
  | enter thread here _ | finish thread here _ | lock thread here _ | relock thread here _
  | block thread here _ | spurious thread here | unlock thread here =>
      exact ready.update thread _ (by simp [Local.goto])
  | pass thread here passed => exact ready.update thread _ fun _ => passed
  | store thread data here _ =>
      intro other access
      exact absurd access
        (no_access owned (by simp [Local.locked, here]) _ (by simp [Local.goto]) other)
  | load thread here _ =>
      intro other access
      exact absurd access
        (no_access owned (by simp [Local.locked, here]) _ (by simp [Local.goto]) other)
  | advance thread here | count thread here =>
      intro other access
      exact absurd access
        (no_access owned (by simp [Local.locked, here]) _ (by simp [Local.goto]) other)
  | signal thread target here admitted =>
      have woken : Ready maxBuf { state with
          thread := wake (fun view => view.goto .woken) state.thread target } :=
        forall_wake admitted (fun _ view => view.point = .access →
          mustWait maxBuf view.role state.buffer = false) ready (by simp [Local.goto])
      exact woken.update thread _ (by simp [Local.goto])

/-- Each step keeps the queue between the produced and the consumed items. -/
theorem queued_step {state later : State Thread} {label : Label Thread} (owned : Owned state)
    (ready : Ready maxBuf state) (queued : Queued maxBuf state)
    (step : Step maxBuf nloops state label later) : Queued maxBuf later := by
  obtain ⟨queue, split, represents⟩ := queued
  cases step with
  | enter thread here _ | finish thread here _ | spurious thread here =>
      refine ⟨queue, split, ?_⟩
      rw [settled_outside maxBuf owned thread _ (by simp [Local.locked, here])]
      exact represents
  | lock thread here free | relock thread here free =>
      refine ⟨queue, split, ?_⟩
      simp only [State.settled, free] at represents
      simpa [State.settled, State.acquire, State.move, Local.settle, Local.goto] using represents
  | block thread here _ | unlock thread here =>
      refine ⟨queue, split, ?_⟩
      rw [settled_of_locked maxBuf owned thread (by simp [Local.locked, here])] at represents
      simpa [State.settled, State.block, State.unlock, State.move, Local.settle, here] using represents
  | pass thread here _ =>
      refine ⟨queue, split, ?_⟩
      have owns := (owned thread).mp (by simp [Local.locked, here])
      rw [settled_of_locked maxBuf owned thread (by simp [Local.locked, here])] at represents
      simpa [State.settled, State.move, owns, Local.settle, Local.goto, here] using represents
  | store thread data here role =>
      have owns := (owned thread).mp (by simp [Local.locked, here])
      rw [settled_of_locked maxBuf owned thread (by simp [Local.locked, here])] at represents
      have plain : Represents maxBuf state.buffer queue := by
        simpa [Local.settle, here] using represents
      have notFull : state.buffer.counter ≠ maxBuf := by
        have passed := ready thread here
        simpa [role, mustWait] using passed
      refine ⟨queue ++ [⟨data⟩], ?_, ?_⟩
      · simp only [State.store, State.move, split, List.append_assoc]
      · simpa [State.settled, State.store, State.move, owns, Local.settle, Local.goto, role,
          Role.count, Role.advance] using plain.put notFull data
  | load thread here role =>
      have owns := (owned thread).mp (by simp [Local.locked, here])
      rw [settled_of_locked maxBuf owned thread (by simp [Local.locked, here])] at represents
      have plain : Represents maxBuf state.buffer queue := by
        simpa [Local.settle, here] using represents
      have notEmpty : state.buffer.counter ≠ 0 := by
        have passed := ready thread here
        simpa [role, mustWait] using passed
      obtain ⟨item, rest, rfl⟩ := plain.nonempty notEmpty
      refine ⟨rest, ?_, ?_⟩
      · simp only [State.load, State.move, split, plain.load, List.append_assoc,
          List.singleton_append]
      · simpa [State.settled, State.load, State.move, owns, Local.settle, Local.goto, role,
          Role.count, Role.advance] using plain.take
  | advance thread here | count thread here =>
      have owns := (owned thread).mp (by simp [Local.locked, here])
      rw [settled_of_locked maxBuf owned thread (by simp [Local.locked, here])] at represents
      refine ⟨queue, split, ?_⟩
      simpa [State.settled, State.advanceIndex, State.changeCounter, State.move, owns, Local.settle,
        Local.goto, here] using represents
  | signal thread target here admitted =>
      have owns := (owned thread).mp (by simp [Local.locked, here])
      rw [settled_of_locked maxBuf owned thread (by simp [Local.locked, here])] at represents
      refine ⟨queue, split, ?_⟩
      simpa [State.settled, State.signal, owns, Local.settle, Local.goto, here] using represents

end Steps

end ProdconsM

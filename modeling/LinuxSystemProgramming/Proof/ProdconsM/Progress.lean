import LinuxSystemProgramming.Proof.ProdconsM.Queue

namespace ProdconsM
open Transition Monitor Tally BoundedBuffer

variable {Thread : Type} [DecidableEq Thread]

/-- The thread has accessed the buffer in its current iteration. -/
def Point.accessed : Point → Bool
  | .advance | .count | .signal | .unlock => true
  | _ => false

/-- The number of buffer accesses that a thread of a role has made. -/
def Local.accesses (role : Role) (view : Local) : Nat :=
  if view.role = role then view.i + view.point.accessed.toNat else 0

/-- The loop variable stays within the loop bound and reaches it at the end of the loop. -/
structure Local.Bounded (nloops : Nat) (view : Local) : Prop where
  inside : view.i ≤ nloops
  ended : view.point = .finished → view.i = nloops
  body : view.point ≠ .loop → view.point ≠ .finished → view.i < nloops

/-- The threads keep their roles and loop bounds, and the sequences count the accesses. -/
structure Counted (nloops : Nat) [Fintype Thread] (role : Thread → Role) (state : State Thread) :
    Prop where
  roles : ∀ thread, (state.thread thread).role = role thread
  bounded : ∀ thread, (state.thread thread).Bounded nloops
  produced : state.produced.length = total (Local.accesses .producer) state.thread
  consumed : state.consumed.length = total (Local.accesses .consumer) state.thread

section Steps
variable [Fintype Thread] {maxBuf nloops : Nat} {role : Thread → Role}

/-- A thread's new view keeps the counts when the sequences grow by its new accesses. -/
theorem Counted.update {state later : State Thread} (counted : Counted nloops role state)
    (thread : Thread) (view : Local)
    (moved : later.thread = Function.update state.thread thread view)
    (sameRole : view.role = (state.thread thread).role) (bounded : view.Bounded nloops)
    (produced : later.produced.length + (state.thread thread).accesses .producer =
      state.produced.length + view.accesses .producer)
    (consumed : later.consumed.length + (state.thread thread).accesses .consumer =
      state.consumed.length + view.accesses .consumer) : Counted nloops role later where
  roles := by
    rw [moved]
    exact (Function.forall_update_iff state.thread fun other view => view.role = role other).mpr
      ⟨sameRole.trans (counted.roles thread), fun other _ => counted.roles other⟩
  bounded := by
    rw [moved]
    exact (Function.forall_update_iff state.thread fun _ view => view.Bounded nloops).mpr
      ⟨bounded, fun other _ => counted.bounded other⟩
  produced := by
    rw [moved]
    exact total_follow counted.produced thread view produced
  consumed := by
    rw [moved]
    exact total_follow counted.consumed thread view consumed

/-- A move that neither accesses the buffer nor ends the body keeps the counts. -/
theorem Counted.goto {state later : State Thread} (counted : Counted nloops role state)
    (thread : Thread) (point : Point)
    (moved : later.thread = Function.update state.thread thread ((state.thread thread).goto point))
    (bounded : ((state.thread thread).goto point).Bounded nloops)
    (accessed : point.accessed = (state.thread thread).point.accessed)
    (produced : later.produced = state.produced) (consumed : later.consumed = state.consumed) :
    Counted nloops role later := by
  apply counted.update thread _ moved rfl bounded
  · rw [produced]
    simp only [Local.accesses, Local.goto, accessed]
  · rw [consumed]
    simp only [Local.accesses, Local.goto, accessed]

/-- A thread inside the loop body stays bounded at each point of the body. -/
theorem Local.Bounded.goto {view : Local} (bounded : view.Bounded nloops) (point : Point)
    (body : view.i < nloops) (inside : point ≠ .finished) : (view.goto point).Bounded nloops where
  inside := bounded.inside
  ended finished := absurd finished inside
  body _ _ := body

/-- A move within the loop body that is not an access keeps the counts. -/
theorem Counted.within {state later : State Thread} (counted : Counted nloops role state)
    (thread : Thread) {old : Point} (point : Point) (here : (state.thread thread).point = old)
    (moved : later.thread = Function.update state.thread thread ((state.thread thread).goto point))
    (body : old ≠ .loop ∧ old ≠ .finished) (inside : point ≠ .finished)
    (accessed : point.accessed = old.accessed) (produced : later.produced = state.produced)
    (consumed : later.consumed = state.consumed) : Counted nloops role later := by
  subst here
  have bounded := counted.bounded thread
  exact counted.goto thread point moved (bounded.goto point (bounded.body body.1 body.2) inside)
    accessed produced consumed

/-- The signal moves its target within the loop body. -/
theorem Counted.wake {state : State Thread} (counted : Counted nloops role state) (signalled : Role)
    (target : Option Thread)
    (admitted : admits (Local.blockedAs signalled) state.thread target = true) :
    Counted nloops role { state with
      thread := Monitor.wake (fun view => view.goto .woken) state.thread target } := by
  cases target with
  | none => exact counted
  | some sleeper =>
      have asleep : (state.thread sleeper).point = .blocked := by
        simp only [admits, Local.blockedAs, decide_eq_true_eq] at admitted
        exact admitted.2
      exact counted.within sleeper .woken asleep rfl (by decide) (by decide) rfl rfl rfl

/-- Each step keeps the counts. -/
theorem counted_step {state later : State Thread} {label : Label Thread}
    (counted : Counted nloops role state) (step : Step maxBuf nloops state label later) :
    Counted nloops role later := by
  cases step with
  | enter thread here more =>
      have bounded := counted.bounded thread
      exact counted.goto thread .lock rfl (bounded.goto .lock more (by simp))
        (by simp [Point.accessed, here]) rfl rfl
  | finish thread here done =>
      have bounded := counted.bounded thread
      have equal : (state.thread thread).i = nloops := by
        have inside := bounded.inside
        omega
      exact counted.goto thread .finished rfl
        ⟨bounded.inside, fun _ => equal, fun _ ends => absurd rfl ends⟩
        (by simp [Point.accessed, here]) rfl rfl
  | lock thread here free | relock thread here free =>
      exact counted.within thread .check here rfl (by decide) (by decide) rfl rfl rfl
  | block thread here wait =>
      exact counted.within thread .blocked here rfl (by decide) (by decide) rfl rfl rfl
  | pass thread here ready =>
      exact counted.within thread .access here rfl (by decide) (by decide) rfl rfl rfl
  | store thread data here isProducer =>
      have bounded := counted.bounded thread
      have body := bounded.body (by simp [here]) (by simp [here])
      apply counted.update thread ((state.thread thread).goto .advance) rfl rfl
        (bounded.goto .advance body (by simp))
      · simp [State.store, State.move, Local.accesses, Local.goto, isProducer, Point.accessed, here]
        omega
      · simp [State.store, State.move, Local.accesses, Local.goto, isProducer]
  | load thread here isConsumer =>
      have bounded := counted.bounded thread
      have body := bounded.body (by simp [here]) (by simp [here])
      apply counted.update thread ((state.thread thread).goto .advance) rfl rfl
        (bounded.goto .advance body (by simp))
      · simp [State.load, State.move, Local.accesses, Local.goto, isConsumer]
      · simp [State.load, State.move, Local.accesses, Local.goto, isConsumer, Point.accessed, here]
        omega
  | advance thread here =>
      exact counted.within thread .count here rfl (by decide) (by decide) rfl rfl rfl
  | count thread here =>
      exact counted.within thread .signal here rfl (by decide) (by decide) rfl rfl rfl
  | signal thread target here admitted =>
      have woken := counted.wake _ target admitted
      have self := wake_self here admitted
      have awake : (Monitor.wake (fun view => view.goto .woken) state.thread target thread).point =
          .signal := by
        rw [self, here]
      exact woken.within thread .unlock awake (by simp only [State.signal, self]) (by decide)
        (by decide) rfl rfl rfl
  | unlock thread here =>
      have bounded := counted.bounded thread
      have body := bounded.body (by simp [here]) (by simp [here])
      apply counted.update thread ⟨(state.thread thread).role, .loop, (state.thread thread).i + 1⟩
        rfl rfl ⟨body, by simp, by simp⟩
      · simp [State.unlock, Local.accesses, Point.accessed, here]
      · simp [State.unlock, Local.accesses, Point.accessed, here]
  | spurious thread here =>
      exact counted.within thread .woken here rfl (by decide) (by decide) rfl rfl rfl

end Steps

end ProdconsM

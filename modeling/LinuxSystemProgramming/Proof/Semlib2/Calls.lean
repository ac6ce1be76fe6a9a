import LinuxSystemProgramming.Proof.Semlib2.Invariant

namespace Semlib2
open Transition Monitor Tally

variable {Thread : Type} [DecidableEq Thread] [Fintype Thread]

/-- A point inside an operation belongs to that operation. -/
def Point.operation : Point → Option Operation
  | .outside => none
  | .waitLock | .waitCheck | .waitBlocked | .waitWoken | .waitDecrement | .waitUnlock =>
      some .semWait
  | .tryLock | .tryCheck | .tryRefuse | .tryDecrement | .tryUnlock => some .semTrywait
  | .postLock | .postSignal | .postIncrement | .postUnlock => some .semPost
  | .returned operation _ => some operation

/-- Only a point outside belongs to no operation. -/
theorem outside_of_operation {point : Point} (idle : point.operation = none) :
    point = .outside := by
  cases point <;> first | rfl | cases idle

theorem operation_entry (operation : Operation) : operation.entry.operation = some operation := by
  cases operation <;> rfl

/-- An effect that has happened belongs to its operation. -/
theorem operation_of_effected {point : Point} {operation : Operation}
    (effected : point.effected operation = true) : point.operation = some operation := by
  cases point with
  | waitUnlock | tryUnlock | postUnlock =>
      simp only [Point.effected, decide_eq_true_eq] at effected
      rw [effected]
      rfl
  | returned current result =>
      simp only [Point.effected, decide_eq_true_eq] at effected
      rw [← effected.1]
      rfl
  | _ => cases effected

omit [Fintype Thread] in
/-- A thread that moves within its operation keeps the operation of each thread. -/
theorem operation_move (point : Thread → Point) (thread : Thread) (later : Point)
    (same : later.operation = (point thread).operation) :
    ∀ other, (Function.update point thread later other).operation = (point other).operation :=
  (Function.forall_update_iff point fun other later =>
    later.operation = (point other).operation).mpr ⟨same, fun _ _ => rfl⟩

/-- A step inside an operation keeps the operation of each thread. -/
theorem operation_step {state later : State Thread} {label : Label Thread}
    (internal : label.internal = true) (step : Step state label later) (other : Thread) :
    (later.point other).operation = (state.point other).operation := by
  cases step with
  | call | ret => cases internal
  | postSignal thread target here admitted =>
      have awake : wake (fun _ => .waitWoken) state.point target thread = .postSignal :=
        (wake_of_not_blocked admitted (by rw [here]; rfl)).trans here
      have woken : (wake (fun _ => .waitWoken) state.point target other).operation =
          (state.point other).operation := by
        refine forall_wake admitted (fun other later =>
          later.operation = (state.point other).operation) (fun _ => rfl) ?_ other
        intro sleeper asleep
        cases point : state.point sleeper <;> rw [point] at asleep <;> cases asleep
        rfl
      exact (operation_move _ thread _ (by rw [awake]; rfl) other).trans woken
  | waitLock thread here | waitBlock thread here | waitPass thread here | waitRelock thread here
  | waitDecrement thread here | waitUnlock thread here | tryLock thread here | tryFail thread here
  | tryPass thread here | tryRefuse thread here | tryDecrement thread here | tryUnlock thread here
  | postLock thread here | postIncrement thread here | postUnlock thread here
  | spurious thread here => exact operation_move state.point thread _ (by rw [here]; rfl) other

/-- A step inside an operation returns to no caller. -/
theorem returned_step {state later : State Thread} {label : Label Thread}
    (internal : label.internal = true) (step : Step state label later) :
    later.returned = state.returned := by
  cases step with
  | call | ret => cases internal
  | _ => rfl

/-- A call enters its operation from outside. -/
theorem call_next {state later : State Thread} {thread : Thread} {operation : Operation}
    (taken : state.next (.call thread operation) = some later) :
    state.point thread = .outside ∧ later = state.move thread operation.entry := by
  simp only [State.next, Option.ite_none_right_eq_some, Option.some.injEq] at taken
  exact ⟨taken.1, taken.2.symm⟩

/-- A return leaves its operation with the recorded result. -/
theorem ret_next {state later : State Thread} {thread : Thread} {operation : Operation}
    {result : Int} (taken : state.next (.ret thread operation result) = some later) :
    state.point thread = .returned operation result ∧
      later = state.leave thread operation result := by
  simp only [State.next, Option.ite_none_right_eq_some, Option.some.injEq] at taken
  exact ⟨taken.1, taken.2.symm⟩

/-- The result at a point is zero except after a refused `sem_trywait`. -/
def Point.Succeeds : Point → Prop
  | .returned operation result => operation ≠ .semTrywait → result = 0
  | _ => True

/-- A wait or post returns only zero. -/
theorem reachable_succeeds {value : Int} {state : State Thread}
    (reached : (system Thread value).Reachable state) (thread : Thread) :
    (state.point thread).Succeeds := by
  have update (point : Thread → Point) (mover : Thread) (later : Point)
      (before : ∀ other, (point other).Succeeds) (after : later.Succeeds) :
      ∀ other, (Function.update point mover later other).Succeeds :=
    (Function.forall_update_iff point fun _ point => point.Succeeds).mpr
      ⟨after, fun other _ => before other⟩
  revert thread
  apply reached.invariant fun state => ∀ thread, (state.point thread).Succeeds
  · intro state start thread
    obtain ⟨_, initialized⟩ := start
    obtain rfl := semInit_eq initialized
    trivial
  · intro state label later _ succeeds taken
    cases step_of_next taken with
    | call mover operation here => exact update _ mover _ succeeds (by cases operation <;> trivial)
    | postSignal mover target here admitted =>
        exact update _ mover _ (forall_wake admitted (fun _ point => point.Succeeds) succeeds
          fun _ _ => trivial) trivial
    | waitUnlock mover here | postUnlock mover here | tryUnlock mover here =>
        exact update _ mover _ succeeds fun _ => rfl
    | tryRefuse mover here => exact update _ mover _ succeeds fun attempt => absurd rfl attempt
    | waitLock mover | waitBlock mover | waitPass mover | waitRelock mover | waitDecrement mover
    | tryLock mover | tryFail mover | tryPass mover | tryDecrement mover | postLock mover
    | postIncrement mover | spurious mover | ret mover =>
        exact update _ mover _ succeeds trivial

/-- A thread inside an operation has a step of its own unless it is blocked, returns, or waits for the mutex. -/
theorem exists_internal_step (state : State Thread) (thread : Thread)
    (inside : (state.point thread).operation ≠ none)
    (awake : state.point thread ≠ .waitBlocked)
    (staying : ∀ operation result, state.point thread ≠ .returned operation result)
    (able : state.mutex = none ∨ (state.point thread).locked = true) :
    state.next (.advance thread) ≠ none ∨
      ∃ target, state.next (.signal thread target) ≠ none := by
  cases here : state.point thread with
  | outside => exact absurd (by rw [here]; rfl) inside
  | waitBlocked => exact absurd here awake
  | returned operation result => exact absurd here (staying operation result)
  | waitLock | waitWoken | tryLock | postLock =>
      left
      rcases able with free | holds
      · simp [State.next, State.advance, here, free]
      · rw [here] at holds
        cases holds
  | waitCheck | tryCheck =>
      left
      simp only [State.next, State.advance, here]
      split <;> simp
  | waitDecrement | waitUnlock | tryRefuse | tryDecrement | tryUnlock | postIncrement
  | postUnlock =>
      left
      simp [State.next, State.advance, here]
  | postSignal =>
      right
      by_cases sleeping : ∃ sleeper, (state.point sleeper).blocked = true
      · obtain ⟨sleeper, asleep⟩ := sleeping
        exact ⟨some sleeper, by simp [State.next, here, admits, asleep]⟩
      · refine ⟨none, ?_⟩
        have none (sleeper : Thread) : (state.point sleeper).blocked = false :=
          Bool.eq_false_iff.mpr fun asleep => sleeping ⟨sleeper, asleep⟩
        simp [State.next, here, admits, none]

/-- If no operation has a step of its own, then each thread is outside, blocked, or returns. -/
theorem quiet_of_stuck {state : State Thread} (owned : Owned state)
    (still : ∀ thread, state.next (.advance thread) = none)
    (silent : ∀ thread target, state.next (.signal thread target) = none) (thread : Thread) :
    state.point thread = .outside ∨ state.point thread = .waitBlocked ∨
      ∃ operation result, state.point thread = .returned operation result := by
  have shape (each : Thread) (able : state.mutex = none ∨ (state.point each).locked = true) :
      state.point each = .outside ∨ state.point each = .waitBlocked ∨
        ∃ operation result, state.point each = .returned operation result := by
    by_contra running
    simp only [not_or, not_exists] at running
    have inside : (state.point each).operation ≠ none := fun idle =>
      running.1 (outside_of_operation idle)
    rcases exists_internal_step state each inside running.2.1 running.2.2 able with moves | moves
    · exact moves (still each)
    · obtain ⟨target, moves⟩ := moves
      exact moves (silent each target)
  have free : state.mutex = none := by
    cases owner : state.mutex with
    | none => rfl
    | some holder =>
        have holds := (owned holder).mpr owner
        rcases shape holder (Or.inr holds) with point | point | ⟨operation, result, point⟩ <;>
          rw [point] at holds <;> cases holds
  exact shape thread (Or.inl free)

end Semlib2

import LinuxSystemProgramming.Proof.Semlib2.Invariant

namespace Semlib2
open Transition Monitor Tally

variable {Thread : Type} [DecidableEq Thread] [Fintype Thread]

/-- While a thread is blocked, the returning threads can take the value and each pending increment. -/
def Attended (state : State Thread) : Prop :=
  0 < tally Point.blocked state.point →
    state.sval + tally Point.incrementing state.point ≤ tally Point.returning state.point

/-- A change of one point keeps the attendance when it loses no more returning threads than demand. -/
theorem Attended.update {state later : State Thread} (attended : Attended state) (thread : Thread)
    {old : Point} (point : Point) (moved : later.point = Function.update state.point thread point)
    (here : state.point thread = old) (blocked : point.blocked = true → old.blocked = true)
    (balance : later.sval + point.incrementing.toNat + old.returning.toNat ≤
      state.sval + old.incrementing.toNat + point.returning.toNat) : Attended later := by
  rw [Attended, moved]
  apply Attends.update attended thread point (by rw [here]; exact blocked)
  have change := total_update (fun each => each.incrementing.toNat) state.point thread point
  rw [here] at change ⊢
  simp only [tally]
  omega

/-- A move that blocks no thread and loses no returning thread keeps the attendance. -/
theorem Attended.move {state : State Thread} (attended : Attended state) (owner : Option Thread)
    (thread : Thread) {old : Point} (point : Point) (here : state.point thread = old)
    (blocked : point.blocked = true → old.blocked = true)
    (incrementing : point.incrementing = old.incrementing)
    (returning : old.returning = true → point.returning = true) :
    Attended { state.move thread point with mutex := owner } := by
  apply attended.update thread point rfl here blocked
  have noneLost : old.returning.toNat ≤ point.returning.toNat := Bool.toNat_le_toNat returning
  rw [incrementing]
  simp only [State.move]
  omega

/-- A thread blocks only when the value is zero and no increment is pending. -/
theorem Attended.block {state : State Thread} (owned : Owned state) (thread : Thread)
    (here : state.point thread = .waitCheck) (empty : state.sval = 0) :
    Attended (state.release thread .waitBlocked) := by
  intro waiting
  have idle : tally Point.incrementing state.point = 0 := by
    rw [owned.tally_owner Point.incrementing locked_of_incrementing thread (by rw [here]; rfl), here]
    rfl
  have same := tally_keep Point.incrementing state.point thread .waitBlocked (by rw [here]; rfl)
  simp only [State.release, State.move]
  omega

/-- A decrement takes one from the value and at most one from the returning threads. -/
theorem Attended.decrement {state : State Thread} (attended : Attended state) (thread : Thread)
    {old : Point} (point : Point) (here : state.point thread = old) (awake : point.blocked = false)
    (incrementing : point.incrementing = old.incrementing) :
    Attended (state.decrement thread point) := by
  apply attended.update thread point rfl here (by simp [awake])
  have small := Bool.toNat_le old.returning
  rw [incrementing]
  simp only [State.decrement, State.move]
  omega

/-- An increment turns a pending increment into one more unit of the value. -/
theorem Attended.increment {state : State Thread} (attended : Attended state) (thread : Thread)
    (here : state.point thread = .postIncrement) :
    Attended (state.increment thread .postUnlock) := by
  apply attended.update thread .postUnlock rfl here (by simp [Point.blocked])
  simp [State.increment, State.move, Point.incrementing, Point.returning]

/-- A signal adds one returning thread for its pending increment, or no thread is blocked. -/
theorem Attended.signal {state : State Thread} (attended : Attended state) (thread : Thread)
    (target : Option Thread) (here : state.point thread = .postSignal)
    (admitted : admits Point.blocked state.point target = true) :
    Attended (state.signal thread target) := by
  let woken := wake (fun _ => Point.waitWoken) state.point target
  have awake : woken thread = .postSignal :=
    (wake_of_not_blocked admitted (by rw [here]; rfl)).trans here
  have answered : Attends Point.blocked Point.returning woken
      (state.sval + tally Point.incrementing state.point + 1) :=
    Attends.wake attended admitted
      (by intro point; cases point <;> simp [Point.blocked, Point.returning]) (fun _ _ => rfl) le_rfl
  have pending : tally Point.incrementing (Function.update woken thread .postIncrement) =
      tally Point.incrementing state.point + 1 := by
    rw [tally_rise Point.incrementing woken thread .postIncrement (by rw [awake]; rfl) rfl,
      tally_wake Point.blocked _ state.point target admitted Point.incrementing
        (by intro point; cases point <;> simp [Point.blocked, Point.incrementing])]
  change Attends Point.blocked Point.returning (Function.update woken thread .postIncrement)
    (state.sval + tally Point.incrementing (Function.update woken thread .postIncrement))
  apply answered.update thread .postIncrement (by simp [Point.blocked])
  rw [pending, awake]
  simp [Point.returning, add_assoc]

/-- Each step keeps the attendance. -/
theorem attended_step {state later : State Thread} {label : Label Thread} (owned : Owned state)
    (attended : Attended state) (step : Step state label later) : Attended later := by
  cases step with
  | call thread operation here =>
      exact attended.move state.mutex thread _ here (by cases operation <;> exact id)
        (by cases operation <;> rfl) (by cases operation <;> exact id)
  | waitLock thread here free | waitRelock thread here free | tryLock thread here free
  | postLock thread here free =>
      exact attended.move (some thread) thread _ here (by simp [Point.blocked]) rfl
        (by simp [Point.returning])
  | waitBlock thread here empty => exact Attended.block owned thread here empty
  | waitPass thread here present | tryPass thread here present | tryFail thread here present =>
      exact attended.move state.mutex thread _ here (by simp [Point.blocked]) rfl
        (by simp [Point.returning])
  | waitDecrement thread here | tryDecrement thread here =>
      exact attended.decrement thread _ here rfl rfl
  | waitUnlock thread here | tryRefuse thread here | tryUnlock thread here
  | postUnlock thread here =>
      exact attended.move none thread _ here (by simp [Point.blocked]) rfl (by simp [Point.returning])
  | spurious thread here =>
      exact attended.move state.mutex thread _ here (by simp [Point.blocked]) rfl
        (by simp [Point.returning])
  | postSignal thread target here admitted => exact attended.signal thread target here admitted
  | postIncrement thread here => exact attended.increment thread here
  | ret thread operation result here =>
      exact attended.move state.mutex thread _ here (by simp [Point.blocked]) rfl
        (by simp [Point.returning])

/-- Every reachable state attends to its blocked threads. -/
theorem reachable_attended {value : Int} {state : State Thread}
    (reached : (system Thread value).Reachable state) : Attended state := by
  apply reached.invariant Attended
  · intro state start waiting
    obtain ⟨nonneg, initialized⟩ := start
    obtain rfl := semInit_eq initialized
    rw [tally_eq_zero Point.blocked _ (fun _ => rfl)] at waiting
    exact absurd waiting (Nat.lt_irrefl 0)
  · intro state label later before attended taken
    exact attended_step (reachable_invariant before).1 attended (step_of_next taken)

omit [DecidableEq Thread] in
/-- With the mutex free the returning threads are exactly the woken ones. -/
theorem returning_eq_woken {state : State Thread} (owned : Owned state)
    (free : state.mutex = none) :
    tally Point.returning state.point = tally Point.woken state.point := by
  apply tally_congr
  intro thread
  have unowned : Exclusive none Point.locked state.point := free ▸ owned
  have outside := unowned.free thread
  cases point : state.point thread <;> rw [point] at outside <;> first | rfl | cases outside

/-- A blocked `sem_wait` never sees a value that exceeds the number of woken threads on their way. -/
theorem noLostWakeup (value : Int) (state : State Thread)
    (reached : (system Thread value).Reachable state) (free : state.mutex = none)
    (sleeper : Thread) (asleep : state.point sleeper = .waitBlocked) :
    state.sval ≤ (Finset.univ.filter fun thread => state.point thread = .waitWoken).card ∧
      (0 < state.sval → ∃ thread, state.point thread = .waitWoken) := by
  have owned := (reachable_invariant reached).1
  have attended := reachable_attended reached (tally_pos _ _ sleeper (by rw [asleep]; rfl))
  rw [returning_eq_woken owned free] at attended
  have bound : state.sval ≤ tally Point.woken state.point := by omega
  have wokenPoint (point : Point) (woken : point.woken = true) : point = .waitWoken := by
    cases point <;> first | rfl | cases woken
  constructor
  · rw [tally_eq_card] at bound
    have same : (Finset.univ.filter fun thread => (state.point thread).woken = true) =
        Finset.univ.filter fun thread => state.point thread = .waitWoken := by
      apply Finset.filter_congr
      intro thread _
      exact ⟨wokenPoint _, fun point => by rw [point]; rfl⟩
    rw [same] at bound
    exact bound
  · intro positive
    obtain ⟨thread, woken⟩ := exists_of_tally_pos Point.woken state.point (by omega)
    exact ⟨thread, wokenPoint _ woken⟩

/-- Two threads wait, one post wakes the first, and the second stays blocked with the value at one. -/
theorem noLostWakeup_run : ∃ state : State (Fin 3), state.sval = 1 ∧
    state.point 1 = .waitBlocked ∧
    state.sval ≤ (Finset.univ.filter fun thread => state.point thread = .waitWoken).card ∧
    (0 < state.sval → ∃ thread, state.point thread = .waitWoken) := by
  obtain ⟨state, reached, facts⟩ := (system (Fin 3) 0).exists_reachable
    ⟨0, none, fun _ => .outside, 0, 0, fun _ => 0⟩ ⟨le_refl 0, rfl⟩
    [.call 0 .semWait, .advance 0, .advance 0, .call 1 .semWait, .advance 1, .advance 1,
      .call 2 .semPost, .advance 2, .signal 2 (some 0), .advance 2, .advance 2]
    (fun state => decide (state.sval = 1 ∧ state.mutex = none ∧ state.point 1 = .waitBlocked))
    (by decide)
  simp only [decide_eq_true_eq] at facts
  exact ⟨state, facts.1, facts.2.2, noLostWakeup 0 state reached facts.2.1 1 facts.2.2⟩

end Semlib2

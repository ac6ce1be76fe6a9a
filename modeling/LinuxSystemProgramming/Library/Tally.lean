import Mathlib.Algebra.BigOperators.Group.Finset.Basic
import Mathlib.Algebra.Order.BigOperators.Group.Finset
import Mathlib.Data.Fintype.BigOperators

namespace Tally

variable {Thread View : Type*} [Fintype Thread]

/-- The total adds the weight of each thread's view. -/
def total (weight : View → Nat) (view : Thread → View) : Nat := ∑ thread, weight (view thread)

/-- The tally counts the threads whose view satisfies a test. -/
def tally (test : View → Bool) (view : Thread → View) : Nat :=
  total (fun value => (test value).toNat) view

/-- The tally is the size of the set of threads that satisfy the test. -/
theorem tally_eq_card (test : View → Bool) (view : Thread → View) :
    tally test view = (Finset.univ.filter fun thread => test (view thread) = true).card := by
  rw [tally, total, Finset.card_filter]
  apply Finset.sum_congr rfl
  intro thread _
  cases test (view thread) <;> rfl

/-- A step of one thread changes a total by the change of that thread's weight. -/
theorem total_change (weight : View → Nat) {before after : Thread → View} (mover : Thread)
    (same : ∀ thread, thread ≠ mover → after thread = before thread) :
    total weight after + weight (before mover) = total weight before + weight (after mover) := by
  classical
  have split (view : Thread → View) : total weight view =
      weight (view mover) + ∑ thread ∈ Finset.univ.erase mover, weight (view thread) :=
    (Finset.add_sum_erase Finset.univ (fun thread => weight (view thread))
      (Finset.mem_univ mover)).symm
  have rest : ∑ thread ∈ Finset.univ.erase mover, weight (after thread) =
      ∑ thread ∈ Finset.univ.erase mover, weight (before thread) := by
    apply Finset.sum_congr rfl
    intro thread member
    rw [same thread (Finset.ne_of_mem_erase member)]
  rw [split after, split before, rest]
  omega

/-- An update of one thread's view changes a total by the change of its weight. -/
theorem total_update [DecidableEq Thread] (weight : View → Nat) (view : Thread → View)
    (mover : Thread) (value : View) :
    total weight (Function.update view mover value) + weight (view mover) =
      total weight view + weight value := by
  have change : total weight (Function.update view mover value) + weight (view mover) =
      total weight view + weight (Function.update view mover value mover) :=
    total_change weight mover fun thread different => Function.update_of_ne different value view
  rwa [Function.update_self] at change

/-- A count that changes by the change of one thread's weight stays equal to the total. -/
theorem total_follow [DecidableEq Thread] {weight : View → Nat} {view : Thread → View}
    {before after : Nat} (counted : before = total weight view) (mover : Thread) (value : View)
    (changed : after + weight (view mover) = before + weight value) :
    after = total weight (Function.update view mover value) := by
  have change := total_update weight view mover value
  omega

/-- One thread's weight is at most the total. -/
theorem weight_le_total (weight : View → Nat) (view : Thread → View) (thread : Thread) :
    weight (view thread) ≤ total weight view :=
  Finset.single_le_sum (f := fun other => weight (view other)) (fun _ _ => Nat.zero_le _)
    (Finset.mem_univ thread)

/-- The total is the weight of one thread when every other thread has no weight. -/
theorem total_eq_single (weight : View → Nat) (view : Thread → View) (thread : Thread)
    (empty : ∀ other, other ≠ thread → weight (view other) = 0) :
    total weight view = weight (view thread) :=
  Finset.sum_eq_single thread (fun other _ different => empty other different)
    (fun absent => absurd (Finset.mem_univ thread) absent)

/-- A total of zero weights is zero. -/
theorem total_eq_zero (weight : View → Nat) (view : Thread → View)
    (empty : ∀ thread, weight (view thread) = 0) : total weight view = 0 :=
  Finset.sum_eq_zero fun thread _ => empty thread

section Update
variable [DecidableEq Thread]

/-- A move between views with one test result keeps the tally. -/
theorem tally_keep (test : View → Bool) (view : Thread → View) (mover : Thread) (value : View)
    (same : test value = test (view mover)) :
    tally test (Function.update view mover value) = tally test view := by
  have change := total_update (fun each => (test each).toNat) view mover value
  simp only [same] at change
  exact Nat.add_right_cancel change

/-- A move into the test adds one to the tally. -/
theorem tally_rise (test : View → Bool) (view : Thread → View) (mover : Thread) (value : View)
    (outside : test (view mover) = false) (inside : test value = true) :
    tally test (Function.update view mover value) = tally test view + 1 := by
  have change := total_update (fun each => (test each).toNat) view mover value
  simp only [outside, inside, Bool.toNat_false, Bool.toNat_true] at change
  exact change

/-- A move out of the test takes one from the tally. -/
theorem tally_fall (test : View → Bool) (view : Thread → View) (mover : Thread) (value : View)
    (inside : test (view mover) = true) (outside : test value = false) :
    tally test (Function.update view mover value) + 1 = tally test view := by
  have change := total_update (fun each => (test each).toNat) view mover value
  simp only [outside, inside, Bool.toNat_false, Bool.toNat_true] at change
  exact change

end Update

/-- Two tests that agree on every thread have the same tally. -/
theorem tally_congr (first second : View → Bool) (view : Thread → View)
    (same : ∀ thread, first (view thread) = second (view thread)) :
    tally first view = tally second view :=
  Finset.sum_congr rfl fun thread _ => congrArg Bool.toNat (same thread)

/-- A positive tally has a thread that satisfies the test. -/
theorem exists_of_tally_pos (test : View → Bool) (view : Thread → View)
    (positive : 0 < tally test view) : ∃ thread, test (view thread) = true := by
  by_contra none
  have empty : tally test view = 0 := total_eq_zero _ _ fun thread => by
    cases value : test (view thread) with
    | false => rfl
    | true => exact absurd ⟨thread, value⟩ none
  omega

/-- A thread that satisfies the test makes the tally positive. -/
theorem tally_pos (test : View → Bool) (view : Thread → View) (thread : Thread)
    (passes : test (view thread) = true) : 0 < tally test view := by
  have bound := weight_le_total (fun value => (test value).toNat) view thread
  simp only [passes, Bool.toNat_true] at bound
  exact bound

/-- The tally is zero when no thread satisfies the test. -/
theorem tally_eq_zero (test : View → Bool) (view : Thread → View)
    (fails : ∀ thread, test (view thread) = false) : tally test view = 0 :=
  total_eq_zero _ _ fun thread => by rw [fails thread]; rfl

end Tally

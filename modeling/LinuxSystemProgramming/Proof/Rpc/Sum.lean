import LinuxSystemProgramming.Construction.Rpc
import Mathlib.Tactic.Ring
import Mathlib.Tactic.Linarith

namespace Rpc

/-- A value between zero and the largest int fits. -/
theorem fits_of_bounds {value : Int} (nonneg : 0 ≤ value) (small : value ≤ 2147483647) :
    fits value = true := by
  simp only [fits, decide_eq_true_eq]
  omega

/-- Up to 65535 the loop ends with twice its sum equal to the product of neighbours. -/
theorem sumLoop_small (num : Nat) (small : num ≤ 65535) (rounds : Nat) :
    ∀ (i : Nat) (sum : Int), i + rounds = num + 1 → 2 * sum = i * (i - 1) →
      ∃ total, sumLoop num (rounds + 1) i sum = some total ∧ 2 * total = num * (num + 1) := by
  induction rounds with
  | zero =>
      intro i sum position invariant
      have past : ¬ (i : Int) ≤ num := by omega
      refine ⟨sum, by simp [sumLoop, past], ?_⟩
      have last : (i : Int) = num + 1 := by omega
      rw [invariant, last]
      ring
  | succ rounds ih =>
      intro i sum position invariant
      have inside : (i : Int) ≤ num := by omega
      have next : 2 * (sum + i) = ((i + 1 : Nat) : Int) * ((i + 1 : Nat) - 1) := by
        push_cast
        linarith
      have bound : (i : Int) * (i + 1) ≤ 65535 * 65536 := by
        have first : (i : Int) ≤ 65535 := by omega
        exact mul_le_mul first (by omega) (by omega) (by omega)
      have sign : 0 ≤ (i : Int) * (i + 1) := by positivity
      have double : 2 * (sum + i) = (i : Int) * (i + 1) := by linarith
      have fitsSum : fits (sum + i) = true := fits_of_bounds (by omega) (by omega)
      have fitsNext : fits ((i : Int) + 1) = true := fits_of_bounds (by omega) (by omega)
      obtain ⟨total, ends, closed⟩ := ih (i + 1) (sum + i) (by omega) next
      refine ⟨total, ?_, closed⟩
      rw [sumLoop, if_pos inside, fitsSum, fitsNext]
      exact_mod_cast ends

/-- From 65536 on the loop overflows before it ends. -/
theorem sumLoop_large (num : Nat) (large : 65536 ≤ num) (rounds : Nat) :
    ∀ (fuel i : Nat) (sum : Int), i + rounds = 65536 → 2 * sum = i * (i - 1) →
      sumLoop num fuel i sum = none := by
  induction rounds with
  | zero =>
      intro fuel i sum position invariant
      have last : (i : Int) = 65536 := by omega
      rw [last] at invariant
      have overflow : fits (sum + i) = false := by
        simp only [fits, decide_eq_false_iff_not]
        omega
      cases fuel with
      | zero => rfl
      | succ fuel =>
          have inside : (i : Int) ≤ num := by omega
          rw [sumLoop, if_pos inside, overflow]
          rfl
  | succ rounds ih =>
      intro fuel i sum position invariant
      cases fuel with
      | zero => rfl
      | succ fuel =>
          have inside : (i : Int) ≤ num := by omega
          have next : 2 * (sum + i) = ((i + 1 : Nat) : Int) * ((i + 1 : Nat) - 1) := by
            push_cast
            linarith
          have later := ih fuel (i + 1) (sum + i) (by omega) next
          push_cast at later
          rw [sumLoop, if_pos inside, later]
          simp

/-- For a negative number the loop has no iteration. -/
theorem rpcSum_negative {num : Int} (negative : num < 0) : rpcSum num = some 0 := by
  have past : ¬ 0 ≤ num := by omega
  simp [rpcSum, sumLoop, past]

/-- For a number up to 65535 the loop ends with the sum of the numbers up to it. -/
theorem rpcSum_small (num : Nat) (small : num ≤ 65535) :
    ∃ total, rpcSum num = some total ∧ 2 * total = num * (num + 1) :=
  sumLoop_small num small (num + 1) 0 0 (by omega) (by simp)

/-- For a number from 65536 on the loop has no defined result. -/
theorem rpcSum_large {num : Int} (large : 65536 ≤ num) : rpcSum num = none := by
  obtain ⟨natural, rfl⟩ := Int.eq_ofNat_of_zero_le (by omega : 0 ≤ num)
  exact sumLoop_large natural (by omega) 65536 _ 0 0 (by omega) (by simp)

/-- The loop ends with the sum of the numbers from zero exactly below 65536. -/
theorem rpcSum_exact_iff (num : Int) :
    rpcSum num = some (if num < 0 then 0 else num * (num + 1) / 2) ↔ num < 65536 := by
  constructor
  · intro exact'
    by_contra large
    rw [rpcSum_large (by omega)] at exact'
    cases exact'
  · intro below
    by_cases negative : num < 0
    · rw [rpcSum_negative negative, if_pos negative]
    · obtain ⟨natural, rfl⟩ := Int.eq_ofNat_of_zero_le (by omega : 0 ≤ num)
      obtain ⟨total, ends, double⟩ := rpcSum_small natural (by omega)
      rw [ends, if_neg negative, ← double, Int.mul_ediv_cancel_left total (by decide)]

/-- A client may store 65536, and the sum of the numbers up to it does not fit. -/
theorem rpcSum_overflows :
    fits 65536 = true ∧ rpcSum 65536 = none ∧ fits (65536 * (65536 + 1) / 2) = false :=
  ⟨by decide, rpcSum_large le_rfl, by decide⟩

end Rpc

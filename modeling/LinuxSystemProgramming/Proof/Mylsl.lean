/-
This file proves that `ch_int` stores the numeral of exactly the numbers that are not negative.
-/

import LinuxSystemProgramming.Construction.Mylsl
import Mathlib.Data.List.Induction
import Mathlib.Tactic.IntervalCases

namespace Mylsl
open CString

/-- The character is a digit only if the remainder is not negative. -/
theorem digit_eq (n : Int32) : digit n = UInt8.ofNat (48 + n.toInt.tmod 10).toNat := by
  have low := Int.lt_tmod_of_pos n.toInt (show 0 < 10 by decide)
  have high := Int.tmod_lt_of_pos n.toInt (show 0 < 10 by decide)
  have remainder : n % 10 = Int32.ofInt (n.toInt.tmod 10) := by
    rw [← Int32.ofInt_toInt (n % 10), Int32.toInt_mod]
    rfl
  rw [digit, remainder]
  generalize n.toInt.tmod 10 = value at low high
  interval_cases value <;> decide

theorem quotient_pos (n : Int32) : n / 10 > 0 ↔ 0 < n.toInt.tdiv 10 := by
  rw [gt_iff_lt, Int32.lt_iff_toInt_lt, Int32.toInt_div_of_ne_right _ _ (by decide)]
  rfl

theorem toInt_quotient {n : Int32} (natural : 0 ≤ n.toInt) : (n / 10).toInt = n.toInt / 10 := by
  rw [Int32.toInt_div_of_ne_right _ _ (by decide), Int.tdiv_eq_ediv_of_nonneg natural]
  rfl

/-- A store replaces the byte behind those in front of it. -/
theorem store_append {s : Buffer 1024} (front : List UInt8) {back : List UInt8} {old : UInt8}
    (shape : s.bytes = front ++ old :: back) (byte : UInt8) :
    ∃ later, store s front.length byte = some later ∧ later.bytes = front ++ byte :: back := by
  have inside : front.length < 1024 := by
    rw [← s.sized, shape, List.length_append, List.length_cons]
    omega
  refine ⟨s.set front.length byte, if_pos inside, ?_⟩
  simp [Buffer.set, shape]

/-- These are the digits in front of the last one, from the lowest to the highest. -/
def higher (number : Nat) : List UInt8 :=
  if number < 10 then [] else (decimal (number / 10)).reverse

theorem reverse_decimal (number : Nat) :
    (decimal number).reverse = UInt8.ofNat (48 + number % 10) :: higher number := by
  by_cases small : number < 10
  · rw [decimal_of_lt small, higher, if_pos small, Nat.mod_eq_of_lt small]
    rfl
  · rw [decimal_of_le (Nat.le_of_not_lt small), higher, if_neg small, List.reverse_append]
    rfl

/-- The digit loop stores the higher digits, by induction on their number. -/
theorem digitLoop_higher {s : Buffer 1024} (front : List UInt8) {rest : List UInt8} {n : Int32}
    {number fuel : Nat} (same : n.toInt = number) (enough : (higher number).length < fuel)
    (room : (higher number).length < rest.length) (shape : s.bytes = front ++ rest) :
    ∃ later old back, digitLoop fuel s front.length n =
        some (later, (front ++ higher number).length) ∧
      later.bytes = front ++ higher number ++ old :: back := by
  induction fuel generalizing s front rest n number with
  | zero => cases enough
  | succ fuel inductionHypothesis =>
      cases rest with
      | nil => cases room
      | cons old back =>
          have natural : 0 ≤ n.toInt := by omega
          have quotient := toInt_quotient natural
          by_cases small : number < 10
          · have stops : ¬ n / 10 > 0 := by
              rw [quotient_pos, Int.tdiv_eq_ediv_of_nonneg natural]
              omega
            refine ⟨s, old, back, ?_, ?_⟩
            · simp [digitLoop, stops, higher, small]
            · simpa [higher, small] using shape
          · have goes : n / 10 > 0 := by
              rw [quotient_pos, Int.tdiv_eq_ediv_of_nonneg natural]
              omega
            have next : digit (n / 10) = UInt8.ofNat (48 + number / 10 % 10) := by
              rw [digit_eq, quotient, same, Int.tmod_eq_emod_of_nonneg (by omega)]
              congr 1
            have longer : higher number = digit (n / 10) :: higher (number / 10) := by
              rw [next, ← reverse_decimal, higher, if_neg small]
            rw [longer, List.length_cons] at enough room
            rw [List.length_cons] at room
            obtain ⟨stored, first, content⟩ := store_append front shape (digit (n / 10))
            obtain ⟨later, old, back, others, whole⟩ :=
              inductionHypothesis (front ++ [digit (n / 10)])
                (show (n / 10).toInt = ↑(number / 10) by omega) (by omega)
                (show _ < back.length by omega) (content.trans (List.append_cons _ _ _))
            refine ⟨later, old, back, ?_, ?_⟩
            · rw [List.length_append, List.length_singleton] at others
              rw [digitLoop]
              simp only [goes, if_true, first, Option.bind_some]
              rw [others, longer]
              simp
            · rw [whole, longer]
              simp

/-- The swaps reverse the characters between the two indices, by induction on both ends. -/
theorem swapLoop_reverse (front middle : List UInt8) {s : Buffer 1024} {back : List UInt8}
    {fuel : Nat} (enough : middle.length < fuel) (shape : s.bytes = front ++ middle ++ back) :
    ∃ later, swapLoop fuel s front.length (front.length + middle.length - 1) = some later ∧
      later.bytes = front ++ middle.reverse ++ back := by
  induction middle using List.bidirectionalRec generalizing s front back fuel with
  | nil =>
      obtain ⟨fuel, rfl⟩ := Nat.exists_eq_add_of_lt enough
      exact ⟨s, by simp [swapLoop], by simpa using shape⟩
  | singleton byte =>
      obtain ⟨fuel, rfl⟩ := Nat.exists_eq_add_of_lt enough
      exact ⟨s, by simp [swapLoop], by simpa using shape⟩
  | cons_append c inner other inductionHypothesis =>
      cases fuel with
      | zero => cases enough
      | succ fuel =>
          have outer : s.bytes = front ++ c :: (inner ++ other :: back) := by
            rw [shape]
            simp
          obtain ⟨stored, first, content⟩ := store_append front outer other
          have later : stored.bytes = (front ++ other :: inner) ++ other :: back := by
            rw [content]
            simp
          obtain ⟨swapped, second, whole⟩ := store_append (front ++ other :: inner) later c
          have short : inner.length < fuel := by
            simp only [List.length_cons, List.length_append] at enough
            omega
          have around : swapped.bytes = (front ++ [other]) ++ inner ++ c :: back := by
            rw [whole]
            simp
          obtain ⟨done, ends, result⟩ := inductionHypothesis (front ++ [other]) short around
          refine ⟨done, ?_, ?_⟩
          · have last : front.length + (c :: (inner ++ [other])).length - 1 =
                (front ++ other :: inner).length := by
              simp only [List.length_cons, List.length_append, List.length_nil]
              omega
            have crossed : front.length < (front ++ other :: inner).length := by simp
            have left : s.bytes[front.length]? = some c := by simp [outer]
            have right : s.bytes[(front ++ other :: inner).length]? = some other := by
              rw [shape]
              simp
            rw [last, swapLoop, if_pos crossed, left, Option.bind_some, right, Option.bind_some,
              first, Option.bind_some, second, Option.bind_some, ← ends]
            congr 1
            · simp
            · simp only [List.length_cons, List.length_append, List.length_nil]
              omega
          · rw [result]
            simp

/-- These characters are in the array at the end. -/
def written (n : Int32) : List UInt8 :=
  if n.toInt < 0 then [digit n] else decimal n.toInt.toNat

theorem zero_not_mem_written (n : Int32) : 0 ∉ written n := by
  rw [written]
  split
  case isTrue negative =>
      have low := Int.lt_tmod_of_pos n.toInt (show 0 < 10 by decide)
      have high := Int.tmod_lt_of_pos n.toInt (show 0 < 10 by decide)
      rw [digit_eq]
      generalize n.toInt.tmod 10 = value at low high
      interval_cases value <;> decide
  case isFalse natural => exact zero_not_mem_decimal _

theorem length_written (n : Int32) : (written n).length ≤ 10 := by
  rw [written]
  split
  case isTrue negative => exact Nat.le_add_left 1 9
  case isFalse natural =>
      have bound : n.toInt.toNat < 2147483648 := by
        have limit := n.toInt_lt
        omega
      exact length_decimal_le (by decide) (Nat.lt_of_lt_of_le bound (by decide))

/-- The first store and the digit loop leave the characters in the reverse order. -/
theorem store_digitLoop (s : Buffer 1024) (n : Int32) {fuel : Nat} (enough : 10 < fuel) :
    ∃ later old back, ((store s 0 (digit n)).bind fun s => digitLoop fuel s 1 n) =
        some (later, (written n).length) ∧
      later.bytes = (written n).reverse ++ old :: back := by
  have short := length_written n
  cases start : s.bytes with
  | nil =>
      have sized := s.sized
      rw [start] at sized
      cases sized
  | cons first rest =>
      have room : rest.length = 1023 := by
        have sized := s.sized
        rw [start, List.length_cons] at sized
        omega
      obtain ⟨stored, done, content⟩ :=
        store_append [] (start.trans (List.nil_append _).symm) (digit n)
      rw [List.length_nil] at done
      rw [done, Option.bind_some]
      by_cases negative : n.toInt < 0
      · obtain ⟨fuel, rfl⟩ := Nat.exists_eq_add_of_lt enough
        cases rest with
        | nil => cases room
        | cons old back =>
            have stops : ¬ n / 10 > 0 := by
              have sign : Int.sign 10 = 1 := rfl
              rw [quotient_pos, Int.tdiv_eq_ediv, sign]
              split
              · omega
              · omega
            refine ⟨stored, old, back, ?_, ?_⟩
            · simp [digitLoop, stops, written, negative]
            · simpa [written, negative] using content
      · have same : n.toInt = n.toInt.toNat := by omega
        have last : digit n = UInt8.ofNat (48 + n.toInt.toNat % 10) := by
          rw [digit_eq, Int.tmod_eq_emod_of_nonneg (by omega)]
          congr 1
          omega
        have whole := reverse_decimal n.toInt.toNat
        rw [written, if_neg negative] at short ⊢
        have lengths := congrArg List.length whole
        rw [List.length_reverse, List.length_cons] at lengths
        obtain ⟨later, old, back, others, result⟩ := digitLoop_higher [digit n] same
          (show _ < fuel by omega) (show _ < rest.length by omega) content
        refine ⟨later, old, back, ?_, ?_⟩
        · rw [lengths]
          simpa using others
        · rw [whole, ← last]
          simpa using result

/-- `ch_int` returns within the array and leaves these characters with their end. -/
theorem chInt_written (s : Buffer 1024) (n : Int32) {fuel : Nat} (enough : 10 < fuel) :
    ∃ stored, chInt fuel s n = some stored ∧ stored.read = some (written n) := by
  have clean : 0 ∉ (written n).reverse := by
    rw [List.mem_reverse]
    exact zero_not_mem_written n
  have short := length_written n
  obtain ⟨later, old, back, loop, content⟩ := store_digitLoop s n enough
  obtain ⟨ended, terminated, shape⟩ := store_append (written n).reverse content 0
  rw [List.length_reverse] at terminated
  have reads : ended.read = some (written n).reverse := by
    rw [Buffer.read, shape, if_pos (by simp), text_terminated _ _ clean]
  obtain ⟨stored, swaps, result⟩ := swapLoop_reverse [] (written n).reverse
    (show _ < fuel by rw [List.length_reverse]; omega) (shape.trans (by rw [List.nil_append]))
  refine ⟨stored, ?_, ?_⟩
  · rw [chInt]
    rw [Option.bind_eq_some_iff] at loop
    obtain ⟨begun, first, loop⟩ := loop
    rw [first, Option.bind_some, loop, Option.bind_some, terminated, Option.bind_some, reads,
      Option.bind_some]
    simpa using swaps
  · rw [List.nil_append, List.reverse_reverse] at result
    rw [Buffer.read, result, if_pos (by simp), text_terminated _ _ (zero_not_mem_written n)]

/-- A negative number is not written as its numeral, and it is not read back. -/
theorem written_of_neg {n : Int32} (negative : n.toInt < 0) :
    written n ≠ numeral n.toInt ∧ integer (written n) ≠ some n.toInt := by
  have single : written n = [digit n] := if_pos negative
  have low := Int.lt_tmod_of_pos n.toInt (show 0 < 10 by decide)
  have high := Int.tmod_lt_of_pos n.toInt (show 0 < 10 by decide)
  constructor
  · intro same
    have lengths := congrArg List.length same
    have some_digit := List.length_pos_of_ne_nil (decimal_ne_nil n.toInt.natAbs)
    rw [single, numeral, if_pos negative, List.length_singleton, List.length_cons] at lengths
    omega
  · have values : integer (written n) = none ∨ integer (written n) = some 0 := by
      have positive : n.toInt.tmod 10 ≤ 0 := by
        have negated := Int.neg_tmod (-n.toInt) 10
        have natural := Int.tmod_nonneg 10 (show 0 ≤ -n.toInt by omega)
        rw [neg_neg] at negated
        omega
      rw [single, digit_eq]
      generalize n.toInt.tmod 10 = value at low positive
      interval_cases value <;> decide +kernel
    intro same
    rcases values with none | zero
    · rw [none] at same
      cases same
    · rw [zero, Option.some_inj] at same
      omega

theorem written_of_nonneg {n : Int32} (natural : 0 ≤ n.toInt) : written n = numeral n.toInt := by
  rw [written, if_neg (by omega), numeral, if_neg (by omega)]
  congr 1
  omega

/-- `ch_int` returns, and it stores the numeral of `n`, which is read back as `n`, if and only if `n` is not negative. Two such numbers have different strings. -/
theorem chInt_iff (s : Buffer 1024) (n : Int32) :
    ∀ fuel > 10, ∃ stored string, chInt fuel s n = some stored ∧ stored.read = some string ∧
      (string = numeral n.toInt ↔ 0 ≤ n.toInt) ∧ (integer string = some n.toInt ↔ 0 ≤ n.toInt) ∧
      (0 ≤ n.toInt → ∀ (before : Buffer 1024) (m : Int32), 0 ≤ m.toInt →
        (chInt fuel before m).bind Buffer.read = some string → m = n) := by
  intro fuel enough
  obtain ⟨stored, returns, reads⟩ := chInt_written s n enough
  refine ⟨stored, written n, returns, reads, ?_, ?_, ?_⟩
  · constructor
    · intro same
      by_contra negative
      exact (written_of_neg (by omega)).1 same
    · exact written_of_nonneg
  · constructor
    · intro same
      by_contra negative
      exact (written_of_neg (by omega)).2 same
    · intro natural
      rw [written_of_nonneg natural, integer_numeral]
  · intro natural before m other same
    obtain ⟨after, ends, content⟩ := chInt_written before m enough
    rw [ends, Option.bind_some, content, Option.some_inj, written_of_nonneg natural,
      written_of_nonneg other] at same
    have equal := congrArg integer same
    rw [integer_numeral, integer_numeral, Option.some_inj] at equal
    exact Int32.toInt_inj.mp equal

theorem chInt_iff_42 :
    ∃ stored, chInt 11 (Buffer.fill 1024 7) 42 = some stored ∧ stored.read = some [52, 50] := by
  obtain ⟨stored, string, returns, reads, numeral, _⟩ :=
    chInt_iff (Buffer.fill 1024 7) 42 11 (by decide)
  exact ⟨stored, returns, reads.trans (congrArg some (numeral.mpr (by decide)))⟩

/-- Both `0` and `-10` are stored as `0`. -/
theorem chInt_minus_ten :
    (chInt 11 (Buffer.fill 1024 0) (-10)).bind Buffer.read = some [48] ∧
      (chInt 11 (Buffer.fill 1024 0) 0).bind Buffer.read = some [48] ∧
      [48] ≠ numeral (-10) ∧ integer [48] ≠ some (-10) := by
  decide +kernel

end Mylsl

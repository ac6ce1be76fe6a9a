import Mathlib.Data.List.Basic
import Mathlib.Data.List.TakeWhile
import Mathlib.Data.List.Forall2
import Mathlib.Logic.Function.Defs

namespace CString

/-- A buffer is an array of bytes of a fixed size. -/
structure Buffer (size : Nat) where
  bytes : List UInt8
  sized : bytes.length = size
  deriving DecidableEq

/-- A zero buffer holds the empty string if it has a byte. -/
def Buffer.fill (size : Nat) (byte : UInt8) : Buffer size := ⟨List.replicate size byte, by simp⟩

variable {size : Nat}

/-- A write replaces the first bytes and keeps the rest of the buffer. -/
def Buffer.write (buffer : Buffer size) (bytes : List UInt8) (fits : bytes.length ≤ size) :
    Buffer size where
  bytes := bytes ++ buffer.bytes.drop bytes.length
  sized := by
    rw [List.length_append, List.length_drop, buffer.sized]
    omega

/-- A store replaces one byte of the buffer. -/
def Buffer.set (buffer : Buffer size) (i : Nat) (byte : UInt8) : Buffer size where
  bytes := buffer.bytes.set i byte
  sized := by rw [List.length_set, buffer.sized]

/-- The text of some bytes ends before their first zero. -/
def text (bytes : List UInt8) : List UInt8 := bytes.takeWhile (· ≠ 0)

/-- A buffer without a zero holds no string, and a reader would leave the buffer. -/
def Buffer.read (buffer : Buffer size) : Option (List UInt8) :=
  if 0 ∈ buffer.bytes then some (text buffer.bytes) else none

/-- The text of a terminated string is the string, whatever follows it. -/
theorem text_terminated (string rest : List UInt8) (clean : 0 ∉ string) :
    text (string ++ 0 :: rest) = string := by
  have all : ∀ byte ∈ string, decide (byte ≠ 0) = true := by
    intro byte member
    exact decide_eq_true fun zero => clean (zero ▸ member)
  rw [text, List.takeWhile_append_of_pos all]
  simp

/-- The text has no zero. -/
theorem zero_not_mem_text (bytes : List UInt8) : 0 ∉ text bytes := by
  intro member
  have nonzero := List.mem_takeWhile_imp member
  simp at nonzero

/-- Bytes with a zero are their text, the zero, and a rest. -/
theorem exists_rest (bytes : List UInt8) (terminated : 0 ∈ bytes) :
    ∃ rest, bytes = text bytes ++ 0 :: rest := by
  induction bytes with
  | nil => cases terminated
  | cons byte tail ih =>
      by_cases zero : byte = 0
      · subst zero
        exact ⟨tail, by simp [text]⟩
      · have later : 0 ∈ tail := (List.mem_cons.mp terminated).resolve_left (Ne.symm zero)
        obtain ⟨rest, split⟩ := ih later
        refine ⟨rest, ?_⟩
        have step : text (byte :: tail) = byte :: text tail := by simp [text, zero]
        rw [step, List.cons_append, ← split]

/-- The string of a buffer is shorter than the buffer. -/
theorem Buffer.length_read_lt {buffer : Buffer size} {string : List UInt8}
    (reads : buffer.read = some string) : string.length < size := by
  rw [Buffer.read, Option.ite_none_right_eq_some, Option.some.injEq] at reads
  obtain ⟨terminated, same⟩ := reads
  obtain ⟨rest, split⟩ := exists_rest buffer.bytes terminated
  have length := congrArg List.length split
  rw [buffer.sized, same, List.length_append, List.length_cons] at length
  omega

/-- A buffer that received a terminated string holds that string. -/
theorem Buffer.read_write (buffer : Buffer size) (string rest : List UInt8) (clean : 0 ∉ string)
    (fits : (string ++ 0 :: rest).length ≤ size) :
    (buffer.write (string ++ 0 :: rest) fits).read = some string := by
  have terminated : 0 ∈ (buffer.write (string ++ 0 :: rest) fits).bytes := by
    simp [Buffer.write]
  rw [Buffer.read, if_pos terminated]
  simp only [Buffer.write, List.append_assoc, List.cons_append]
  rw [text_terminated string _ clean]

/-- A buffer that received a zero holds the text of what it received. -/
theorem Buffer.read_write_of_mem (buffer : Buffer size) (bytes : List UInt8)
    (fits : bytes.length ≤ size) (terminated : 0 ∈ bytes) :
    (buffer.write bytes fits).read = some (text bytes) := by
  have inside : 0 ∈ (buffer.write bytes fits).bytes := List.mem_append_left _ terminated
  obtain ⟨rest, split⟩ := exists_rest bytes terminated
  rw [Buffer.read, if_pos inside, Buffer.write]
  simp only
  rw [split, List.append_assoc, List.cons_append, text_terminated _ _ (zero_not_mem_text bytes),
    ← split]

/-- If a buffer without zeros holds a string after a write, then the written bytes contain the string and its end. -/
theorem Buffer.written_of_read (buffer : Buffer size) (bytes : List UInt8)
    (fits : bytes.length ≤ size) (clean : 0 ∉ buffer.bytes) (string : List UInt8)
    (reads : (buffer.write bytes fits).read = some string) :
    ∃ rest, bytes = string ++ 0 :: rest := by
  rw [Buffer.read, Option.ite_none_right_eq_some, Option.some.injEq] at reads
  obtain ⟨terminated, same⟩ := reads
  have written : 0 ∈ bytes := by
    rcases List.mem_append.mp terminated with inside | stale
    · exact inside
    · exact absurd (List.mem_of_mem_drop stale) clean
  obtain ⟨rest, split⟩ := exists_rest bytes written
  refine ⟨rest, ?_⟩
  rw [← same, Buffer.write]
  simp only
  rw [split, List.append_assoc, List.cons_append, text_terminated _ _ (zero_not_mem_text bytes)]

/-- After a write the first bytes are the written ones, and the others are as before. -/
theorem Buffer.getElem?_write (buffer : Buffer size) (bytes : List UInt8)
    (fits : bytes.length ≤ size) (i : Nat) :
    (buffer.write bytes fits).bytes[i]? =
      if i < bytes.length then bytes[i]? else buffer.bytes[i]? := by
  rw [Buffer.write, List.getElem?_append]
  split
  case isTrue => rfl
  case isFalse past => rw [List.getElem?_drop, Nat.add_sub_cancel' (Nat.le_of_not_lt past)]

/-- The text of some bytes is followed by their other bytes. -/
theorem text_append (bytes rest : List UInt8) :
    text (bytes ++ rest) = if 0 ∈ bytes then text bytes else bytes ++ text rest := by
  split
  case isTrue terminated =>
      obtain ⟨tail, shape⟩ := exists_rest bytes terminated
      conv_lhs => rw [shape, List.append_assoc, List.cons_append]
      exact text_terminated _ _ (zero_not_mem_text bytes)
  case isFalse clean =>
      refine List.takeWhile_append_of_pos ?_
      intro byte member
      exact decide_eq_true fun zero => clean (zero ▸ member)

/-- Bytes without a zero are their text. -/
theorem text_eq_self {bytes : List UInt8} (clean : 0 ∉ bytes) : text bytes = bytes := by
  have all := text_append bytes []
  rw [if_neg clean, List.append_nil] at all
  rw [all]
  exact List.append_nil bytes

/-- Bytes that are not the first one of a text begin with a zero. -/
theorem text_eq_nil {bytes : List UInt8} (terminated : 0 ∈ bytes) :
    text bytes = [] ↔ bytes[0]? = some 0 := by
  cases bytes with
  | nil => cases terminated
  | cons byte tail =>
      by_cases zero : byte = 0
      · simp [text, zero]
      · simp [text, zero]

/-- A reader finds exactly the written text when a zero ends it in the bytes or directly behind them. -/
theorem Buffer.read_write_iff (buffer : Buffer size) (bytes : List UInt8)
    (fits : bytes.length ≤ size) (string : List UInt8) :
    (buffer.write bytes fits).read = some string ∧ string <+: bytes ↔
      string = text bytes ∧ (0 ∈ bytes ∨ buffer.bytes[bytes.length]? = some 0) := by
  have behind : buffer.bytes[bytes.length]? = (buffer.bytes.drop bytes.length)[0]? := by
    rw [List.getElem?_drop, Nat.add_zero]
  simp only [Buffer.read, Buffer.write, Option.ite_none_right_eq_some, Option.some.injEq,
    List.mem_append, text_append, behind]
  by_cases inside : 0 ∈ bytes
  · simp only [inside, true_or, if_true, true_and, and_true]
    constructor
    · rintro ⟨rfl, _⟩
      rfl
    · rintro rfl
      exact ⟨rfl, List.takeWhile_prefix _⟩
  · simp only [inside, false_or, if_false, text_eq_self inside]
    constructor
    · rintro ⟨⟨terminated, rfl⟩, short⟩
      have empty : text (buffer.bytes.drop bytes.length) = [] := by
        have bound := short.length_le
        rw [List.length_append] at bound
        exact List.eq_nil_of_length_eq_zero (by omega)
      exact ⟨by rw [empty, List.append_nil], (text_eq_nil terminated).mp empty⟩
    · rintro ⟨rfl, zero⟩
      have terminated := List.mem_of_getElem? zero
      refine ⟨⟨terminated, ?_⟩, List.prefix_rfl⟩
      rw [(text_eq_nil terminated).mpr zero, List.append_nil]

/-- The decimal digits of a number, as `printf` writes them for `%d`. -/
def decimal (number : Nat) : List UInt8 := (Nat.toDigits 10 number).map Char.toUInt8

/-- The code of a digit is between the codes of the first and the last digit. -/
theorem digit_bounds {char : Char} (digit : char.isDigit = true) :
    48 ≤ char.val.toNat ∧ char.val.toNat ≤ 57 := by
  simpa [Char.isDigit, UInt32.le_iff_toNat_le] using digit

/-- The byte of a digit determines the digit. -/
theorem ofUInt8_toUInt8 {char : Char} (digit : char.isDigit = true) :
    Char.ofUInt8 char.toUInt8 = char := by
  obtain ⟨_, bound⟩ := digit_bounds digit
  apply Char.ext
  apply UInt32.toNat_inj.mp
  change char.val.toUInt8.toUInt32.toNat = char.val.toNat
  rw [UInt8.toNat_toUInt32, UInt32.toNat_toUInt8]
  omega

/-- The digits hold no zero byte. -/
theorem zero_not_mem_decimal (number : Nat) : 0 ∉ decimal number := by
  intro member
  obtain ⟨char, inside, zero⟩ := List.mem_map.mp member
  have digit := Nat.isDigit_of_mem_toDigits (by decide) (by decide) inside
  obtain ⟨bound, limit⟩ := digit_bounds digit
  have code := congrArg UInt8.toNat zero
  simp only [Char.toUInt8, UInt32.toNat_toUInt8, UInt8.toNat_zero] at code
  omega

/-- A number below a power of ten has at most as many digits as the exponent. -/
theorem length_decimal_le {number digits : Nat} (positive : 0 < digits)
    (bound : number < Nat.pow 10 digits) : (decimal number).length ≤ digits := by
  rw [decimal, List.length_map]
  exact (Nat.length_toDigits_le_iff (by decide) positive).mpr bound

/-- A number below ten is one digit. -/
theorem decimal_of_lt {number : Nat} (small : number < 10) :
    decimal number = [UInt8.ofNat (48 + number)] := by
  have codes : ∀ digit < 10, (Nat.digitChar digit).toUInt8 = UInt8.ofNat (48 + digit) := by decide
  rw [decimal, Nat.toDigits_of_lt_base small, List.map_singleton, codes number small]

/-- The last digit of a larger number is its remainder. -/
theorem decimal_of_le {number : Nat} (large : 10 ≤ number) :
    decimal number = decimal (number / 10) ++ [UInt8.ofNat (48 + number % 10)] := by
  have last := decimal_of_lt (Nat.mod_lt number (show 0 < 10 by decide))
  rw [decimal, Nat.toDigits_of_lt_base (Nat.mod_lt number (by decide))] at last
  rw [decimal, Nat.toDigits_of_base_le (by decide) large, List.map_append, last, decimal]

theorem decimal_ne_nil (number : Nat) : decimal number ≠ [] := by
  by_cases small : number < 10
  · rw [decimal_of_lt small]
    exact List.cons_ne_nil _ _
  · rw [decimal_of_le (Nat.le_of_not_lt small)]
    exact List.append_ne_nil_of_right_ne_nil _ (List.cons_ne_nil _ _)

/-- A reader of digits finds a number, and other strings are not digits. -/
def digits (string : List UInt8) : Option Nat :=
  if !string.isEmpty && string.all fun byte => (Char.ofUInt8 byte).isDigit then
    some (Nat.ofDigitChars 10 (string.map Char.ofUInt8) 0)
  else none

/-- A reader of an integer accepts a minus sign in front of the digits. -/
def integer : List UInt8 → Option Int
  | 45 :: string => (digits string).map Int.negOfNat
  | string => (digits string).map Int.ofNat

/-- The numeral of an integer has a minus sign if the integer is negative. -/
def numeral (number : Int) : List UInt8 :=
  if number < 0 then 45 :: decimal number.natAbs else decimal number.natAbs

theorem decimal_chars (number : Nat) :
    (decimal number).map Char.ofUInt8 = Nat.toDigits 10 number := by
  rw [decimal, List.map_map]
  refine (List.map_congr_left fun char member => ?_).trans (List.map_id _)
  exact ofUInt8_toUInt8 (Nat.isDigit_of_mem_toDigits (by decide) (by decide) member)

theorem isDigit_of_mem_decimal {number : Nat} {byte : UInt8} (member : byte ∈ decimal number) :
    (Char.ofUInt8 byte).isDigit := by
  have char : Char.ofUInt8 byte ∈ Nat.toDigits 10 number := by
    rw [← decimal_chars]
    exact List.mem_map_of_mem member
  exact Nat.isDigit_of_mem_toDigits (by decide) (by decide) char

/-- The digits of a number are read as the number. -/
theorem digits_decimal (number : Nat) : digits (decimal number) = some number := by
  have some_digit : (decimal number).isEmpty = false :=
    Bool.eq_false_iff.mpr fun none => decimal_ne_nil number (List.isEmpty_iff.mp none)
  have all : (decimal number).all (fun byte => (Char.ofUInt8 byte).isDigit) = true :=
    List.all_eq_true.mpr fun byte => isDigit_of_mem_decimal
  rw [digits, some_digit, all, decimal_chars, Nat.ofDigitChars_ten_toDigits]
  rfl

/-- Different numbers have different digits. -/
theorem decimal_injective : Function.Injective decimal := by
  intro first second same
  apply Option.some.inj
  rw [← digits_decimal first, same, digits_decimal second]

/-- A numeral is read as its integer. -/
theorem integer_numeral (number : Int) : integer (numeral number) = some number := by
  rw [numeral]
  split
  case isTrue negative =>
      rw [integer, digits_decimal, Option.map_some, Int.negOfNat_eq]
      exact congrArg some (Int.eq_neg_natAbs_of_nonpos (by omega)).symm
  case isFalse natural =>
      cases same : decimal number.natAbs with
      | nil => exact absurd same (decimal_ne_nil _)
      | cons byte rest =>
          have unsigned : byte ≠ 45 := by
            rintro rfl
            have digit := isDigit_of_mem_decimal (same ▸ List.mem_cons_self)
            exact absurd digit (by decide)
          rw [integer.eq_2 _ fun string equal => unsigned (List.cons.inj equal).1, ← same,
            digits_decimal, Option.map_some]
          exact congrArg some (Int.natAbs_of_nonneg (by omega))

/-- A numeral has only digits and a minus sign. -/
theorem not_mem_numeral {byte : UInt8} (other : (Char.ofUInt8 byte).isDigit = false)
    (unsigned : byte ≠ 45) (number : Int) : byte ∉ numeral number := by
  have absent : byte ∉ decimal number.natAbs := fun member =>
    Bool.false_ne_true (other.symm.trans (isDigit_of_mem_decimal member))
  rw [numeral]
  split
  case isTrue => exact List.not_mem_cons_of_ne_of_not_mem unsigned absent
  case isFalse => exact absent

/-- Different integers have different numerals. -/
theorem numeral_injective : Function.Injective numeral := by
  intro first second same
  apply Option.some.inj
  rw [← integer_numeral first, same, integer_numeral second]

/-- A separator that is in neither field shows where the fields end. -/
theorem separated {byte : UInt8} {first second rest tail : List UInt8} (clean : byte ∉ first)
    (also : byte ∉ second) (same : first ++ byte :: rest = second ++ byte :: tail) :
    first = second ∧ rest = tail := by
  induction first generalizing second with
  | nil =>
      cases second with
      | nil => exact ⟨rfl, (List.cons.inj same).2⟩
      | cons head second => exact absurd ((List.cons.inj same).1 ▸ List.mem_cons_self) also
  | cons head first inductionHypothesis =>
      cases second with
      | nil => exact absurd ((List.cons.inj same).1 ▸ List.mem_cons_self) clean
      | cons other second =>
          obtain ⟨rfl, later⟩ := List.cons.inj same
          obtain ⟨rfl, equal⟩ := inductionHypothesis (fun member => clean (.tail _ member))
            (fun member => also (.tail _ member)) later
          exact ⟨rfl, equal⟩

/-- A string that fits in a buffer together with its zero. -/
structure Content (size : Nat) where
  bytes : List UInt8
  fits : bytes.length < size

/-- `strcat` appends a string, and it has no result if the string does not fit. -/
def Content.append (content : Content size) (bytes : List UInt8) : Option (Content size) :=
  if fits : (content.bytes ++ bytes).length < size then some ⟨content.bytes ++ bytes, fits⟩
  else none

/-- `sprintf` and `strcpy` write a string and its zero, and they keep the rest of the buffer. -/
def Buffer.print (buffer : Buffer size) (content : Content size) : Buffer size :=
  buffer.write (content.bytes ++ [0]) (by
    rw [List.length_append]
    exact content.fits)

/-- A write of a whole buffer replaces all bytes. -/
theorem Buffer.write_all (buffer other : Buffer size) (bytes : List UInt8)
    (fits : bytes.length ≤ size) (same : bytes = other.bytes) : buffer.write bytes fits = other := by
  subst same
  obtain ⟨bytes, sized⟩ := other
  have none : buffer.bytes.drop bytes.length = [] :=
    List.drop_eq_nil_of_le (by rw [buffer.sized, sized])
  simp only [Buffer.write, none, List.append_nil]

/-- A part extends a frame when it begins with the frame. -/
def Extends (part frame : List UInt8) : Prop := ∃ rest, part = frame ++ rest

/-- Parts that extend frames are together at least as long as the frames. -/
theorem flatten_length_le {parts frames : List (List UInt8)}
    (longer : List.Forall₂ Extends parts frames) : frames.flatten.length ≤ parts.flatten.length := by
  induction longer with
  | nil => exact le_rfl
  | cons begins _ ih =>
      obtain ⟨rest, rfl⟩ := begins
      simp only [List.flatten_cons, List.length_append]
      omega

/-- Parts that extend frames and form the same stream are the frames. -/
theorem eq_of_extends {parts frames : List (List UInt8)}
    (longer : List.Forall₂ Extends parts frames) (same : parts.flatten = frames.flatten) :
    parts = frames := by
  induction longer with
  | nil => rfl
  | cons begins others ih =>
      obtain ⟨rest, rfl⟩ := begins
      simp only [List.flatten_cons, List.append_assoc, List.append_cancel_left_eq] at same
      have bound := flatten_length_le others
      have total := congrArg List.length same
      simp only [List.length_append] at total
      have empty : rest = [] := List.eq_nil_of_length_eq_zero (by omega)
      subst empty
      rw [List.append_nil, ih same]

end CString

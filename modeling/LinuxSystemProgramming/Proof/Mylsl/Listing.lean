/-
This file proves which entries of a directory `mylsl` shows alike.
-/

import LinuxSystemProgramming.Construction.Mylsl.Listing
import Mathlib.Data.Nat.Bitwise
import Mathlib.Data.List.Nodup
import Mathlib.Tactic.IntervalCases

namespace Mylsl
open CString

/-- A mask of one bit tests this bit. -/
theorem masked (mode : UInt32) {mask : UInt32} {bit : Nat} (single : mask.toNat = 2 ^ bit) :
    mode &&& mask ≠ 0 ↔ mode.toNat.testBit bit = true := by
  rw [ne_eq, ← UInt32.toNat_inj, UInt32.toNat_and, single, Nat.and_two_pow]
  cases mode.toNat.testBit bit <;> simp

/-- A permission is shown alike if and only if its bit is the same. -/
theorem flag_eq_iff (mode other : UInt32) {mask : UInt32} {bit : Nat}
    (single : mask.toNat = 2 ^ bit) {letter : UInt8} (shown : letter ≠ '-'.toUInt8) :
    flag mode mask letter = flag other mask letter ↔
      mode.toNat.testBit bit = other.toNat.testBit bit := by
  rw [flag, flag]
  simp only [masked _ single]
  cases mode.toNat.testBit bit <;> cases other.toNat.testBit bit <;> simp [shown, Ne.symm shown]

/-- A permission to execute is shown alike if and only if both of its bits are the same. -/
theorem execute_eq_iff (mode other : UInt32) {mask set : UInt32} {bit identity : Nat}
    (single : mask.toNat = 2 ^ bit) (also : set.toNat = 2 ^ identity) :
    execute mode mask set = execute other mask set ↔
      mode.toNat.testBit bit = other.toNat.testBit bit ∧
        mode.toNat.testBit identity = other.toNat.testBit identity := by
  rw [execute, execute]
  simp only [masked _ single, masked _ also]
  cases mode.toNat.testBit bit <;> cases other.toNat.testBit bit <;>
    cases mode.toNat.testBit identity <;> cases other.toNat.testBit identity <;> decide

/-- Two modes agree behind a mask if and only if they agree at its bits. -/
theorem and_eq_iff (mode other mask : UInt32) :
    mode &&& mask = other &&& mask ↔
      ∀ bit, mask.toNat.testBit bit = true →
        mode.toNat.testBit bit = other.toNat.testBit bit := by
  rw [← UInt32.toNat_inj, UInt32.toNat_and, UInt32.toNat_and]
  constructor
  · intro same bit inside
    have equal := congrArg (fun number => number.testBit bit) same
    simpa [Nat.testBit_and, inside] using equal
  · intro agree
    apply Nat.eq_of_testBit_eq
    intro bit
    rw [Nat.testBit_and, Nat.testBit_and]
    cases inside : mask.toNat.testBit bit with
    | false => rw [Bool.and_false, Bool.and_false]
    | true => rw [agree bit inside]

/-- The types of files that have a character of their own. -/
def types : List UInt32 :=
  [0o100000, 0o040000, 0o020000, 0o060000, 0o010000, 0o120000, 0o140000]

theorem letter_of_not_mem {type : UInt32} (unknown : type ∉ types) : letter type = 'w'.toUInt8 := by
  simp only [types, List.mem_cons, List.not_mem_nil, or_false, not_or] at unknown
  simp only [letter, unknown, if_false]

theorem letter_injOn : ∀ first ∈ types, ∀ second ∈ types, letter first = letter second →
    first = second := by
  have distinct : (types.map letter).Nodup := by decide
  exact fun first member second also same => List.inj_on_of_nodup_map distinct member also same

theorem letter_ne_of_mem : ∀ type ∈ types, letter type ≠ 'w'.toUInt8 := by
  simp only [types, List.mem_cons, List.not_mem_nil, or_false, forall_eq_or_imp, forall_eq]
  decide

/-- The type is shown alike if and only if it is the same or has no character of its own. -/
theorem letter_eq_iff (first second : UInt32) :
    letter first = letter second ↔ first = second ∨ first ∉ types ∧ second ∉ types := by
  by_cases known : first ∈ types
  · by_cases also : second ∈ types
    · simpa [known] using ⟨letter_injOn first known second also, congrArg letter⟩
    · have different : letter first ≠ letter second :=
        letter_of_not_mem also ▸ letter_ne_of_mem first known
      have apart : first ≠ second := fun same => also (same ▸ known)
      simp [different, apart, known]
  · by_cases also : second ∈ types
    · have different : letter first ≠ letter second := fun same =>
        letter_ne_of_mem second also (same.symm.trans (letter_of_not_mem known))
      have apart : first ≠ second := fun same => known (same ▸ also)
      simp [different, apart, also]
    · simp [letter_of_not_mem known, letter_of_not_mem also, known, also]

/-- The bits of a mask of permissions and identities are the first nine and two more. -/
theorem bits_mode (bit : Nat) : (0o6777 : UInt32).toNat.testBit bit = true ↔
    bit = 8 ∨ bit = 7 ∨ bit = 6 ∨ bit = 11 ∨ bit = 5 ∨ bit = 4 ∨ bit = 3 ∨ bit = 10 ∨
      bit = 2 ∨ bit = 1 ∨ bit = 0 := by
  by_cases small : bit < 12
  · interval_cases bit <;> decide
  · have below : (0o6777 : UInt32).toNat < 2 ^ bit :=
      (show (0o6777 : UInt32).toNat < 2 ^ 12 by decide).trans_le
        (Nat.pow_le_pow_right (by decide) (Nat.le_of_not_lt small))
    rw [Nat.testBit_lt_two_pow below]
    simp only [Bool.false_eq_true, false_iff]
    omega

/-- The permissions of two files are shown alike if and only if they agree in all bits but the sticky one, and their types are shown alike. -/
theorem permissions_eq_iff (mode other : UInt32) :
    permissions mode = permissions other ↔ mode &&& 0o6777 = other &&& 0o6777 ∧
      (mode &&& 0o170000 = other &&& 0o170000 ∨
        mode &&& 0o170000 ∉ types ∧ other &&& 0o170000 ∉ types) := by
  have user := execute_eq_iff mode other (show (0o100 : UInt32).toNat = 2 ^ 6 by decide)
    (show (0o4000 : UInt32).toNat = 2 ^ 11 by decide)
  have group := execute_eq_iff mode other (show (0o010 : UInt32).toNat = 2 ^ 3 by decide)
    (show (0o2000 : UInt32).toNat = 2 ^ 10 by decide)
  have single {mask : UInt32} {bit : Nat} (same : mask.toNat = 2 ^ bit) {letter : UInt8}
      (shown : letter ≠ '-'.toUInt8) := flag_eq_iff mode other same shown
  rw [and_eq_iff, ← letter_eq_iff]
  simp only [permissions, Content.mk.injEq, List.cons.injEq, and_true, user, group, kind, bits_mode,
    forall_eq_or_imp, forall_eq]
  rw [single (show (0o400 : UInt32).toNat = 2 ^ 8 by decide) (by decide),
    single (show (0o200 : UInt32).toNat = 2 ^ 7 by decide) (by decide),
    single (show (0o040 : UInt32).toNat = 2 ^ 5 by decide) (by decide),
    single (show (0o020 : UInt32).toNat = 2 ^ 4 by decide) (by decide),
    single (show (0o004 : UInt32).toNat = 2 ^ 2 by decide) (by decide),
    single (show (0o002 : UInt32).toNat = 2 ^ 1 by decide) (by decide),
    single (show (0o001 : UInt32).toNat = 2 ^ 0 by decide) (by decide), and_comm]
  simp only [and_assoc]

/-- These are the fields that a line of the listing shows. -/
structure Shown where
  permissions : Content 30
  whole : 32 ∉ permissions.bytes
  nlnk : Int
  userName : List UInt8
  groupName : List UInt8
  fsize : Int
  t : Tm
  name : List UInt8

/-- The line of the fields. -/
def Shown.text (shown : Shown) : List UInt8 :=
  shown.permissions.bytes ++ 32 :: 32 :: (numeral shown.nlnk ++ 32 :: (shown.userName ++
    32 :: 32 :: (shown.groupName ++ (padded shown.fsize ++ 32 :: (time shown.t ++
      32 :: (shown.name ++ [10]))))))

/-- The names of users and groups have no blank, the name of the file has no newline, and the size has at most six digits. -/
structure Plain (shown : Shown) : Prop where
  user : 32 ∉ shown.userName
  group : 32 ∉ shown.groupName
  natural : 0 ≤ shown.fsize
  small : shown.fsize < 1000000
  name : 10 ∉ shown.name

/-- A size of at most six digits has a blank in front. -/
theorem padded_eq {number : Int} (natural : 0 ≤ number) (small : number < 1000000) :
    ∃ blanks, padded number = 32 :: (List.replicate blanks 32 ++ decimal number.toNat) := by
  have unsigned : numeral number = decimal number.toNat := by
    rw [numeral, if_neg (Int.not_lt.mpr natural)]
    congr 1
    omega
  have short : (decimal number.toNat).length ≤ 6 :=
    length_decimal_le (by decide) (show number.toNat < Nat.pow 10 6 by
      have bound : Nat.pow 10 6 = 1000000 := by decide
      omega)
  refine ⟨6 - (decimal number.toNat).length, ?_⟩
  rw [padded, unsigned, show 7 - (decimal number.toNat).length =
    6 - (decimal number.toNat).length + 1 by omega]
  rfl

/-- Blanks in front of digits can be told from the digits. -/
theorem blanks_inj {blanks others number other : Nat} {rest tail : List UInt8}
    (same : List.replicate blanks 32 ++ (decimal number ++ 32 :: rest) =
      List.replicate others 32 ++ (decimal other ++ 32 :: tail)) :
    number = other ∧ rest = tail := by
  have starts (blanks number : Nat) (rest : List UInt8) :
      (List.replicate blanks 32 ++ (decimal number ++ 32 :: rest)).dropWhile (· = 32) =
        decimal number ++ 32 :: rest := by
    rw [List.dropWhile_append_of_pos (by simp)]
    cases shape : decimal number with
    | nil => exact absurd shape (decimal_ne_nil number)
    | cons head others =>
        have digit : head ≠ 32 := by
          rintro rfl
          have digit := isDigit_of_mem_decimal (shape ▸ List.mem_cons_self)
          exact absurd digit (by decide)
        simp [digit]
  have equal := congrArg (List.dropWhile (· = 32)) same
  rw [starts, starts] at equal
  have clean (number : Nat) : 32 ∉ decimal number := fun member =>
    absurd (isDigit_of_mem_decimal member) (by decide)
  obtain ⟨digits, tails⟩ := separated (clean number) (clean other) equal
  exact ⟨decimal_injective digits, tails⟩

/-- The two digits of an hour or of a minute can be read. -/
theorem digits_twoDigits (number : Fin 60) : digits (twoDigits number) = some number.val := by
  revert number
  decide +kernel

/-- Two digits contain no other character. -/
theorem not_mem_twoDigits {byte : UInt8} (other : (Char.ofUInt8 byte).isDigit = false)
    (number : Nat) : byte ∉ twoDigits number := by
  rw [twoDigits, List.mem_append, List.mem_replicate]
  rintro (⟨_, rfl⟩ | member)
  · exact absurd other (by decide)
  · exact Bool.false_ne_true (other.symm.trans (isDigit_of_mem_decimal member))

/-- Different numbers below sixty have different pairs of digits. -/
theorem twoDigits_inj {first second : Nat} (small : first < 60) (also : second < 60)
    (same : twoDigits first = twoDigits second) : first = second := by
  have read := digits_twoDigits ⟨first, small⟩
  rw [same, digits_twoDigits ⟨second, also⟩] at read
  exact (Option.some.inj read).symm

theorem month_injective : ∀ first second, month first = month second → first = second := by decide

theorem not_mem_month : ∀ tmMon, 32 ∉ month tmMon := by decide

/-- The time can be read from its text. -/
theorem time_inj {first second : Tm} {rest tail : List UInt8}
    (same : time first ++ 32 :: rest = time second ++ 32 :: tail) :
    first = second ∧ rest = tail := by
  have digit (number : Nat) : 32 ∉ decimal number := fun member =>
    absurd (isDigit_of_mem_decimal member) (by decide)
  simp only [time, List.append_assoc, List.cons_append] at same
  obtain ⟨months, same⟩ := separated (not_mem_month _) (not_mem_month _) same
  obtain ⟨days, same⟩ := separated (digit _) (digit _) same
  obtain ⟨hours, same⟩ := separated (not_mem_twoDigits (by decide) _)
    (not_mem_twoDigits (by decide) _) same
  obtain ⟨minutes, tails⟩ := separated (not_mem_twoDigits (by decide) _)
    (not_mem_twoDigits (by decide) _) same
  obtain ⟨mon, mday, hour, minute⟩ := first
  obtain ⟨mon', mday', hour', minute'⟩ := second
  obtain rfl := month_injective mon mon' months
  obtain rfl := Fin.ext (decimal_injective days)
  obtain rfl := Fin.ext (twoDigits_inj (hour.isLt.trans (by decide))
    (hour'.isLt.trans (by decide)) hours)
  obtain rfl := Fin.ext (twoDigits_inj minute.isLt minute'.isLt minutes)
  exact ⟨rfl, tails⟩

/-- A line and what follows it can be read. -/
theorem text_inj {first second : Shown} (plain : Plain first) (also : Plain second)
    {rest tail : List UInt8} (same : first.text ++ rest = second.text ++ tail) :
    first = second ∧ rest = tail := by
  simp only [Shown.text, List.append_assoc, List.cons_append, List.nil_append] at same
  obtain ⟨permissions, same⟩ := separated first.whole second.whole same
  have numbers (number : Int) : 32 ∉ numeral number :=
    not_mem_numeral (by decide) (by decide) number
  obtain ⟨links, same⟩ := separated (numbers _) (numbers _) (List.cons.inj same).2
  obtain ⟨users, same⟩ := separated plain.user also.user same
  obtain ⟨blanks, padding⟩ := padded_eq plain.natural plain.small
  obtain ⟨others, padding'⟩ := padded_eq also.natural also.small
  rw [padding, padding'] at same
  simp only [List.append_assoc, List.cons_append] at same
  obtain ⟨groups, same⟩ := separated plain.group also.group (List.cons.inj same).2
  obtain ⟨sizes, same⟩ := blanks_inj same
  obtain ⟨times, same⟩ := time_inj same
  obtain ⟨names, tails⟩ := separated plain.name also.name same
  have natural := plain.natural
  have also' := also.natural
  obtain ⟨⟨bytes, fits⟩, whole, nlnk, userName, groupName, fsize, t, name⟩ := first
  obtain ⟨⟨bytes', fits'⟩, whole', nlnk', userName', groupName', fsize', t', name'⟩ := second
  obtain rfl : bytes = bytes' := permissions
  obtain rfl := numeral_injective links
  obtain rfl : fsize = fsize' := by
    have equal : fsize.toNat = fsize'.toNat := sizes
    have natural : 0 ≤ fsize := natural
    have also' : 0 ≤ fsize' := also'
    omega
  obtain rfl : userName = userName' := users
  obtain rfl : groupName = groupName' := groups
  obtain rfl : t = t' := times
  obtain rfl : name = name' := names
  exact ⟨rfl, tails⟩

/-- The characters of the permissions are letters and dashes. -/
theorem blank_not_mem_permissions (mode : UInt32) : 32 ∉ (permissions mode).bytes := by
  have flags (mask : UInt32) {letter : UInt8} (visible : letter ≠ 32) :
      32 ≠ flag mode mask letter := by
    rw [flag]
    split
    case isTrue => exact Ne.symm visible
    case isFalse => decide
  have executes (mask set : UInt32) : 32 ≠ execute mode mask set := by
    rw [execute]
    split <;> split <;> decide
  have kinds : 32 ≠ kind mode := by
    by_cases known : mode &&& 0o170000 ∈ types
    · refine (?_ : ∀ type ∈ types, 32 ≠ letter type) _ known
      simp only [types, List.mem_cons, List.not_mem_nil, or_false, forall_eq_or_imp, forall_eq]
      decide
    · rw [kind, letter_of_not_mem known]
      decide
  have r : 'r'.toUInt8 ≠ 32 := by decide
  have w : 'w'.toUInt8 ≠ 32 := by decide
  have x : 'x'.toUInt8 ≠ 32 := by decide
  simp only [permissions, List.mem_cons, List.not_mem_nil, kinds, flags _ r, flags _ w, flags _ x,
    executes, or_self, not_false_eq_true]

/-- The fields that the second loop shows of an entry. -/
def Host.shown (host : Host) (name : List UInt8) (stat : Stat) : Option Shown :=
  (host.getUid stat.stUid.toInt32).bind fun userName =>
    (host.getGid stat.stGid.toInt32).map fun groupName =>
      ⟨permissions stat.stMode, blank_not_mem_permissions _, stat.nlnk, userName, groupName, stat.fsize,
        host.localtime stat.stMtime, name⟩

/-- The fields that the second loop shows of the entries. -/
def Host.entries (host : Host) : List Entry → Option (List Shown)
  | [] => some []
  | (name, result) :: rest =>
      if skipped name then host.entries rest
      else
        result.bind fun stat =>
          (host.shown name stat).bind fun shown =>
            (host.entries rest).map fun later => shown :: later

theorem line_eq (host : Host) (name : List UInt8) (stat : Stat) :
    host.line name stat = (host.shown name stat).map Shown.text := by
  rw [Host.line, Host.shown]
  cases host.getUid stat.stUid.toInt32 with
  | none => rfl
  | some userName => cases host.getGid stat.stGid.toInt32 <;> rfl

/-- The second loop prints the fields. -/
theorem lines_eq (host : Host) (second : List Entry) :
    host.lines second = (host.entries second).map fun shown => shown.flatMap Shown.text := by
  induction second with
  | nil => rfl
  | cons entry rest inductionHypothesis =>
      obtain ⟨name, result⟩ := entry
      rw [Host.lines, Host.entries]
      split
      case isTrue => exact inductionHypothesis
      case isFalse =>
        cases result with
        | none => rfl
        | some stat =>
            rw [Option.bind_some, Option.bind_some, line_eq, inductionHypothesis]
            cases host.shown name stat with
            | none => rfl
            | some shown =>
                cases host.entries rest with
                | none => rfl
                | some later => rfl

/-- The lines of plain entries can be read. -/
theorem flatMap_inj {first second : List Shown} (plain : ∀ shown ∈ first, Plain shown)
    (also : ∀ shown ∈ second, Plain shown)
    (same : first.flatMap Shown.text = second.flatMap Shown.text) : first = second := by
  have some' (shown : Shown) (rest : List UInt8) : shown.text ++ rest ≠ [] := by
    simp [Shown.text]
  induction first generalizing second with
  | nil =>
      cases second with
      | nil => rfl
      | cons other later => exact absurd same.symm (some' other _)
  | cons shown rest inductionHypothesis =>
      cases second with
      | nil => exact absurd same (some' shown _)
      | cons other later =>
          rw [List.flatMap_cons, List.flatMap_cons] at same
          obtain ⟨rfl, tails⟩ := text_inj (plain shown (.head _)) (also other (.head _)) same
          rw [inductionHypothesis (fun each member => plain each (.tail _ member))
            (fun each member => also each (.tail _ member)) tails]

/-- Two listings of plain entries are the same text if and only if they show the same total and the same fields in the same order. -/
theorem main_eq_iff {host other : Host} {first second third fourth : List Entry}
    {total sum : Int64} {shown seen : List Shown} (counted : blocks 0 first = some total)
    (found : host.entries second = some shown) (plain : ∀ line ∈ shown, Plain line)
    (recounted : blocks 0 third = some sum) (again : other.entries fourth = some seen)
    (also : ∀ line ∈ seen, Plain line) :
    host.main first second = other.main third fourth ↔ total = sum ∧ shown = seen := by
  rw [Host.main, Host.main, counted, recounted, lines_eq, lines_eq, found, again]
  simp only [Option.bind_some, Option.map_some, Option.some_inj]
  constructor
  · intro same
    have clean (number : Int64) : 10 ∉ totalText ++ numeral number.toInt := by
      rw [List.mem_append, not_or]
      exact ⟨by decide, not_mem_numeral (by decide) (by decide) _⟩
    obtain ⟨totals, printed⟩ := separated (clean total) (clean sum) same
    exact ⟨Int64.toInt_inj.mp (numeral_injective (List.append_cancel_left totals)),
      flatMap_inj plain also printed⟩
  · rintro ⟨rfl, rfl⟩
    rfl

/-- The listing does not show the sticky bit. -/
theorem main_eq_iff_sticky :
    let host : Host := ⟨fun _ => some [107], fun _ => some [103], fun _ => ⟨0, 1, 2, 3⟩⟩
    let stat : Stat := ⟨0o100644, 1, 0, 0, 5, 8, 0⟩
    host.main [([97], some stat)] [([97], some stat)] =
      host.main [([46], none), ([97], some stat)]
        [([97], some { stat with stMode := 0o101644 })] := by
  intro host stat
  have sticky : permissions 0o101644 = permissions 0o100644 := by
    simp only [permissions, Content.mk.injEq]
    decide
  let line (mode : UInt32) : Shown :=
    ⟨permissions mode, blank_not_mem_permissions mode, 1, [107], [103], 5, ⟨0, 1, 2, 3⟩, [97]⟩
  have plain (mode : UInt32) (shown : Shown) (member : shown ∈ [line mode]) : Plain shown := by
    rw [List.mem_singleton.mp member]
    exact ⟨show 32 ∉ [107] by decide, show 32 ∉ [103] by decide, show (0 : Int) ≤ 5 by decide,
      show (5 : Int) < 1000000 by decide, show 10 ∉ [97] by decide⟩
  refine (main_eq_iff (show blocks 0 [([97], some stat)] = some 8 from rfl)
    (show host.entries [([97], some stat)] = some [line 0o100644] from rfl) (plain _)
    (show blocks 0 [([46], none), ([97], some stat)] = some 8 from rfl)
    (show host.entries [([97], some { stat with stMode := 0o101644 })] =
      some [line 0o101644] from rfl) (plain _)).mpr ⟨rfl, ?_⟩
  simp only [line, sticky]

/-- A size of eight digits runs into the name of the group. -/
example : [103] ++ padded 12345678 = [103, 49] ++ padded 2345678 := by decide

end Mylsl

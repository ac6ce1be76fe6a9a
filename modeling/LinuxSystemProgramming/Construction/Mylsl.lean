import LinuxSystemProgramming.Library.CString

namespace Mylsl
open CString

/-- This is `(n%10) + '0'` as a `char`. -/
def digit (n : Int32) : UInt8 := (n % 10 + 48).toInt8.toUInt8

/-- A store behind the array has no result. -/
def store (s : Buffer 1024) (i : Nat) (byte : UInt8) : Option (Buffer 1024) :=
  if i < 1024 then some (s.set i byte) else none

/-- `while((n/=10)>0)` stores the digits from the second one on, and it leaves their number in `i`. -/
def digitLoop : Nat → Buffer 1024 → Nat → Int32 → Option (Buffer 1024 × Nat)
  | 0, _, _, _ => none
  | fuel + 1, s, i, n =>
      let n := n / 10
      if n > 0 then (store s i (digit n)).bind fun s => digitLoop fuel s (i + 1) n
      else some (s, i)

/-- The reversal swaps the outer characters and goes inwards. -/
def swapLoop : Nat → Buffer 1024 → Nat → Nat → Option (Buffer 1024)
  | 0, _, _, _ => none
  | fuel + 1, s, i, j =>
      if i < j then
        s.bytes[i]?.bind fun c =>
          s.bytes[j]?.bind fun other =>
            (store s i other).bind fun s =>
              (store s j c).bind fun s => swapLoop fuel s (i + 1) (j - 1)
      else some s

/-- `ch_int` leaves the characters of `n` in its array, which has any content before. -/
def chInt (fuel : Nat) (s : Buffer 1024) (n : Int32) : Option (Buffer 1024) :=
  (store s 0 (digit n)).bind fun s =>
    (digitLoop fuel s 1 n).bind fun stored =>
      (store stored.1 stored.2 0).bind fun s =>
        -- The first character is never zero, so `strlen(s) - 1` is not negative.
        s.read.bind fun string => swapLoop fuel s 0 (string.length - 1)

end Mylsl

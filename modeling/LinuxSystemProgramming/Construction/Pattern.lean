import LinuxSystemProgramming.Library.CString
import Mathlib.Data.List.Infix

namespace Pattern
open CString

/-- A word is a string that is not empty. -/
structure Word where
  bytes : List UInt8
  some : bytes ≠ []
  clean : 0 ∉ bytes

/-- `strlen(fd)`. -/
def Word.len (word : Word) : Nat := word.bytes.length

/-- The loop has the position in the file, its counters, and the buffer. -/
structure Scan (len : Nat) where
  position : Nat
  idx : Nat
  result : Nat
  buf : Buffer len

/-- `strstr` searches up to the first zero, in the buffer or in the memory beyond it. -/
def strstr (word : Word) (memory : List UInt8) : Bool := word.bytes <:+: text memory

/-- An `int` cannot be increased above its maximum. -/
def increment (result : Nat) : Option Nat := if result < 2147483647 then some (result + 1) else none

/-- `fread` stores at most `len` bytes over the old ones. -/
def Scan.fread {len : Nat} (scan : Scan len) (file : List UInt8) : Nat × Scan len :=
  let found := (file.drop scan.position).take len
  (found.length, { scan with
    position := scan.position + found.length
    buf := scan.buf.write found (List.length_take_le ..) })

/-- `fseek(fp,idx,0); idx++` follows the read. -/
def Scan.seek {len : Nat} (scan : Scan len) : Scan len :=
  { scan with position := scan.idx, idx := scan.idx + 1 }

/-- Each iteration finds its own memory beyond the buffer. -/
def loop (word : Word) (file : List UInt8) (beyond : Nat → List UInt8) :
    Nat → Scan word.len → Option Nat
  | 0, _ => none
  | fuel + 1, scan =>
      let read := scan.fread file
      if read.1 = 0 then some scan.result
      else if strstr word (read.2.buf.bytes ++ beyond scan.idx) then
        (increment scan.result).bind fun result =>
          loop word file beyond fuel { read.2.seek with result := result }
      else loop word file beyond fuel read.2.seek

/-- `main` prints the number of the windows in which the word was found. -/
def pattern (fuel : Nat) (word : Word) (file : List UInt8) (beyond : Nat → List UInt8)
    (buf : Buffer word.len) : Option Nat :=
  loop word file beyond fuel ⟨0, 0, 0, buf⟩

/-- The word stands in the file at an offset. -/
def occurs (word : Word) (file : List UInt8) (offset : Nat) : Bool :=
  (file.drop offset).take word.len = word.bytes

/-- The number of the offsets at which the word stands in the file. -/
def occurrences (word : Word) (file : List UInt8) : Nat :=
  (List.range file.length).countP (occurs word file)

/-- After the end of the file a window repeats the last byte, and then it has the first bytes of the memory. -/
def window (len : Nat) (file : List UInt8) (old : List UInt8) (offset : Nat) : List UInt8 :=
  (file.drop offset ++ List.replicate offset (file.getLastD 0) ++ old.drop file.length).take len

end Pattern

import LinuxSystemProgramming.Library.Transition
import LinuxSystemProgramming.Library.CString

namespace Del
open Transition

/-- The loop reads at `str` and writes at `dst`, and both point into the same memory. -/
structure Scan where
  memory : List UInt8
  str : Nat
  dst : Nat
  deriving DecidableEq

/-- An iteration stores a character that is not deleted, and it goes on to the next one. -/
def Scan.advance (scan : Scan) (c byte : UInt8) : Scan :=
  if byte ≠ c then ⟨scan.memory.set scan.dst byte, scan.str + 1, scan.dst + 1⟩
  else { scan with str := scan.str + 1 }

/-- `while(*str)` ends at a zero, and a read behind the memory has no result. -/
def loop (c : UInt8) : Nat → Scan → Option (List UInt8)
  | 0, _ => none
  | fuel + 1, scan =>
      match scan.memory[scan.str]? with
      | none => none
      | some byte =>
          if byte = 0 then some (scan.memory.set scan.dst 0)
          else loop c fuel (scan.advance c byte)

/-- `del` deletes the character `c` from the string at `str`. -/
def del (fuel : Nat) (memory : List UInt8) (str : Nat) (c : UInt8) : Option (List UInt8) :=
  loop c fuel ⟨memory, str, str⟩

/-- The system visits the states of the loop of `del` in front of each test. -/
def system (memory : List UInt8) (str : Nat) (c : UInt8) : System Scan Unit where
  initial scan := scan = ⟨memory, str, str⟩
  next scan _ :=
    match scan.memory[scan.str]? with
    | none => none
    | some byte => if byte = 0 then none else some (scan.advance c byte)

/-- The string that begins at an address. -/
def string (memory : List UInt8) (str : Nat) : List UInt8 := CString.text (memory.drop str)

end Del

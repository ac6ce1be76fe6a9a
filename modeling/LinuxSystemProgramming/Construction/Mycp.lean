import LinuxSystemProgramming.Construction.SplitMerge
import LinuxSystemProgramming.Library.Outcome

namespace Mycp
open CString Stdio SplitMerge

universe u
variable {Name : Type u} [DecidableEq Name] {size : Nat}

/-- `mycp` reads one byte at a time, and its `cnt` is the result of the comparison. -/
def copyBytes : Nat → (Nat → Answer × Answer) → Traced Name 1 → Option (Traced Name 1)
  | 0, _, _ => none
  | fuel + 1, answers, traced =>
      let read := traced.read 1 le_rfl (answers 0).1
      let cnt := if 0 < read.1 then 1 else 0
      if cnt ≠ 0 then
        copyBytes fuel (fun i => answers (i + 1)) (read.2.fwrite cnt (answers 0).2)
      else some read.2

/-- The programs open their two files and exit with 1 if they cannot, and then they copy. -/
def copyFile (copy : Traced Name size → Option (Traced Name size)) (opens : Nat → Bool)
    (source target : Name) (disk : Disk Name) (buf : Buffer size) : Option (Exit Name) :=
  match (openRead disk source).filter fun _ => opens 0 with
  | none => some ⟨1, disk, []⟩
  | some first =>
      if opens 1 then
        let second := openWrite disk target
        (copy ⟨⟨second.1, first, second.2, buf⟩, [], []⟩).map fun copied =>
          ⟨0, copied.copy.disk, copied.writes⟩
      else some ⟨1, disk, []⟩

/-- `mycp` copies with `read` and `write`. -/
def mycp (fuel : Nat) (answers : Nat → Answer × Answer) (opens : Nat → Bool)
    (source target : Name) (disk : Disk Name) (buf : Buffer 1) : Option (Exit Name) :=
  copyFile (copyBytes fuel answers) opens source target disk buf

/-- `mycp2` copies with `fread` and `fwrite`. -/
def mycp2 (fuel : Nat) (answers : Nat → Answer × Answer) (opens : Nat → Bool)
    (source target : Name) (disk : Disk Name) (buf : Buffer maxBuf) : Option (Exit Name) :=
  copyFile (Traced.copyAll fuel answers) opens source target disk buf

/-- `mycp3` extends the destination by its last byte and copies from one mapping to the other. -/
def mycp3 (source target : Name) (disk : Disk Name) : Nat × Disk Name :=
  match openRead disk source with
  | none => (1, disk)
  | some fdin =>
      let fdout := openWrite disk target
      let stSize := (content fdout.1 fdin.name).length
      match fdout.2.seekSet (stSize - 1) with
      | none => (1, fdout.1)
      | some moved =>
          let extended := moved.store fdout.1 [0]
          match mapped extended.1 fdin.name stSize, mapped extended.1 target stSize with
          | some src, some _ => (0, storeMapped extended.1 target src)
          | _, _ => (1, extended.1)

/-- All files can be opened. -/
def allOpen : Nat → Bool := fun _ => true

/-- Each call moves as many bytes as it is asked to. -/
def healthy (size : Nat) : Nat → Answer × Answer := fun _ => (.moved size, .moved size)

/-- The program reports success, and the target has these contents. -/
def Copied (exit : Exit Name) (target : Name) (f : List UInt8) : Prop :=
  exit.status = 0 ∧ exit.disk target = some f

end Mycp

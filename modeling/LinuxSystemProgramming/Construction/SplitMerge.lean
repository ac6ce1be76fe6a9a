import LinuxSystemProgramming.Library.Outcome

namespace SplitMerge
open CString Stdio

/-- `MAX_BUF` is the size of the buffers. -/
def maxBuf : Nat := 1024

universe u
variable {Name : Type u} [DecidableEq Name]

/-- `filesize` moves to the end of the file and back. -/
def filesize (disk : Disk Name) (fp : File Name) : Nat × File Name :=
  let cur := fp.position
  let ended := fp.seekEnd disk
  (ended.position, { ended with position := cur })

/-- An iteration of the first loop of `split` copies this `count`. -/
def chunk (hSize : Nat) : Nat := if maxBuf < hSize then maxBuf else hSize

/-- A chunk fits into the buffer and into the count, and it is not empty before the end. -/
theorem chunk_bounds (hSize : Nat) :
    chunk hSize ≤ maxBuf ∧ chunk hSize ≤ hSize ∧ (0 < hSize → 0 < chunk hSize) := by
  unfold chunk maxBuf
  split <;> omega

/-- The first loop of `split` copies as many bytes as it counts down, whatever `fread` returns. -/
def copyHalf (hSize : Nat) (copy : Copy Name maxBuf) : Copy Name maxBuf :=
  if 0 < hSize then
    copyHalf (hSize - chunk hSize)
      ((copy.fread (chunk hSize) (chunk_bounds hSize).1).2.fwrite (chunk hSize))
  else copy
termination_by hSize
decreasing_by
  have bounds := chunk_bounds hSize
  omega

/-- The other loops copy until nothing is read, and each iteration takes one unit of fuel. -/
def copyRest : Nat → Copy Name maxBuf → Option (Copy Name maxBuf)
  | 0, _ => none
  | fuel + 1, copy =>
      let read := copy.fread maxBuf le_rfl
      if 0 < read.1 then copyRest fuel (read.2.fwrite read.1) else some read.2

/-- `split` opens its files and copies the first half. -/
def firstHalf (source dst1 dst2 : Name) (disk : Disk Name) (buf : Buffer maxBuf) :
    Option (Copy Name maxBuf × File Name) :=
  (openRead disk source).map fun fp1 =>
    let second := openWrite disk dst1
    let third := openWrite second.1 dst2
    let sized := filesize third.1 fp1
    (copyHalf (sized.1 / 2) ⟨third.1, sized.2, second.2, buf⟩, third.2)

/-- `split` copies the rest after the first half. -/
def split (fuel : Nat) (source dst1 dst2 : Name) (disk : Disk Name) (buf : Buffer maxBuf) :
    Option (Disk Name) :=
  (firstHalf source dst1 dst2 disk buf).bind fun half =>
    (copyRest fuel { half.1 with target := half.2 }).map fun copied => copied.disk

/-- `merge` copies one file and then the other. -/
def merge (fuel : Nat) (source1 source2 dest : Name) (disk : Disk Name) (buf : Buffer maxBuf) :
    Option (Disk Name) :=
  (openRead disk source1).bind fun fp1 =>
    (openRead disk source2).bind fun fp2 =>
      let third := openWrite disk dest
      (copyRest fuel ⟨third.1, fp1, third.2, buf⟩).bind fun first =>
        (copyRest fuel { first with source := fp2 }).map fun second => second.disk

/-- With any answers, the first loop of `split` writes its count after a read of any length. -/
def copyHalfAnswered (hSize : Nat) (answers : Nat → Answer × Answer)
    (traced : Traced Name maxBuf) : Traced Name maxBuf :=
  if 0 < hSize then
    copyHalfAnswered (hSize - chunk hSize) (fun i => answers (i + 1))
      ((traced.fread (chunk hSize) (chunk_bounds hSize).1 (answers 0).1).2.fwrite (chunk hSize)
        (answers 0).2)
  else traced
termination_by hSize
decreasing_by
  have bounds := chunk_bounds hSize
  omega

/-- The calls of the first loop of `split` move their whole count. -/
def Fills (answers : Nat → Answer × Answer) (hSize : Nat) : Prop :=
  ∀ i, maxBuf * i < hSize →
    min maxBuf (hSize - maxBuf * i) ≤ (answers i).1.most ∧
      min maxBuf (hSize - maxBuf * i) ≤ (answers i).2.most

/-- With any answers, `split` exits with 1 only if it cannot open a file. -/
def splitAnswered (fuel : Nat) (half rest : Nat → Answer × Answer) (opens : Nat → Bool)
    (source dst1 dst2 : Name) (disk : Disk Name) (buf : Buffer maxBuf) : Option (Exit Name) :=
  match (openRead disk source).filter fun _ => opens 0 with
  | none => some ⟨1, disk, []⟩
  | some fp1 =>
      if opens 1 then
        let second := openWrite disk dst1
        if opens 2 then
          let third := openWrite second.1 dst2
          let sized := filesize third.1 fp1
          let copied := copyHalfAnswered (sized.1 / 2) half
            ⟨⟨third.1, sized.2, second.2, buf⟩, [], []⟩
          (Traced.copyAll fuel rest
            { copied with copy := { copied.copy with target := third.2 } }).map fun ended =>
              ⟨0, ended.copy.disk, ended.writes⟩
        else some ⟨1, second.1, []⟩
      else some ⟨1, disk, []⟩

/-- With any answers, `merge` exits with 1 only if it cannot open a file. -/
def mergeAnswered (fuel : Nat) (first second : Nat → Answer × Answer) (opens : Nat → Bool)
    (source1 source2 dest : Name) (disk : Disk Name) (buf : Buffer maxBuf) : Option (Exit Name) :=
  match (openRead disk source1).filter (fun _ => opens 0),
      (openRead disk source2).filter (fun _ => opens 1) with
  | some fp1, some fp2 =>
      if opens 2 then
        let third := openWrite disk dest
        (Traced.copyAll fuel first ⟨⟨third.1, fp1, third.2, buf⟩, [], []⟩).bind fun copied =>
          (Traced.copyAll fuel second
            { copied with copy := { copied.copy with source := fp2 } }).map fun ended =>
              ⟨0, ended.copy.disk, ended.writes⟩
      else some ⟨1, disk, []⟩
  | _, _ => some ⟨1, disk, []⟩

end SplitMerge

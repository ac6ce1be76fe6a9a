import LinuxSystemProgramming.Library.CString
import Mathlib.Data.List.TakeDrop
import Mathlib.Logic.Function.Basic

namespace Stdio
open CString

universe u

/-- A disk has the contents of the files that exist. -/
abbrev Disk (Name : Type u) := Name → Option (List UInt8)

/-- An open file has its name and its position. -/
structure File (Name : Type u) where
  name : Name
  position : Nat

/-- A copy moves bytes through its buffer from one open file to another. -/
structure Copy (Name : Type u) (size : Nat) where
  disk : Disk Name
  source : File Name
  target : File Name
  buf : Buffer size

variable {Name : Type u} [DecidableEq Name] {size : Nat}

/-- The bytes of a file that exists. -/
def content (disk : Disk Name) (name : Name) : List UInt8 := (disk name).getD []

/-- A file that exists can be opened for reading. -/
def openRead (disk : Disk Name) (name : Name) : Option (File Name) :=
  (disk name).map fun _ => ⟨name, 0⟩

/-- A file that is opened for writing is created or loses its contents. -/
def openWrite (disk : Disk Name) (name : Name) : Disk Name × File Name :=
  (Function.update disk name (some []), ⟨name, 0⟩)

/-- The position moves to the end of the file. -/
def File.seekEnd (file : File Name) (disk : Disk Name) : File Name :=
  { file with position := (content disk file.name).length }

/-- A seek from the beginning fails for a negative offset. -/
def File.seekSet (file : File Name) (offset : Int) : Option (File Name) :=
  if offset < 0 then none else some { file with position := offset.toNat }

/-- The bytes replace those at the position, and zeros fill a gap before the position. -/
def File.store (file : File Name) (disk : Disk Name) (bytes : List UInt8) :
    Disk Name × File Name :=
  let old := content disk file.name
  let later := file.position + bytes.length
  (Function.update disk file.name
      (some (old.takeD file.position 0 ++ bytes ++ old.drop later)),
    { file with position := later })

/-- A mapping needs a positive length, and it shows zeros after the end of the file. -/
def mapped (disk : Disk Name) (name : Name) (length : Nat) : Option (List UInt8) :=
  if length = 0 then none else some ((content disk name).takeD length 0)

/-- A store to a shared mapping changes the file only before its end. -/
def storeMapped (disk : Disk Name) (name : Name) (bytes : List UInt8) : Disk Name :=
  let old := content disk name
  Function.update disk name (some (bytes.take old.length ++ old.drop bytes.length))

/-- The bytes that a read of some length finds at the position. -/
def Copy.ahead (copy : Copy Name size) (count : Nat) : List UInt8 :=
  ((content copy.disk copy.source.name).drop copy.source.position).take count

/-- A read stores what it finds and returns its length. -/
def Copy.fread (copy : Copy Name size) (count : Nat) (fits : count ≤ size) :
    Nat × Copy Name size :=
  ((copy.ahead count).length,
    { copy with
      source := { copy.source with position := copy.source.position + (copy.ahead count).length }
      buf := copy.buf.write (copy.ahead count) ((List.length_take_le ..).trans fits) })

/-- A write replaces bytes at the position, and it fills a gap before the position with zeros. -/
def Copy.fwrite (copy : Copy Name size) (count : Nat) : Copy Name size :=
  let old := content copy.disk copy.target.name
  let bytes := copy.buf.bytes.take count
  let later := copy.target.position + bytes.length
  { copy with
    disk := Function.update copy.disk copy.target.name
      (some (old.takeD copy.target.position 0 ++ bytes ++ old.drop later))
    target := { copy.target with position := later } }

omit [DecidableEq Name] in
/-- A mapping of the whole file shows its contents. -/
theorem mapped_whole (disk : Disk Name) (name : Name) (some' : content disk name ≠ []) :
    mapped disk name (content disk name).length = some (content disk name) := by
  have positive : (content disk name).length ≠ 0 := mt List.length_eq_zero_iff.mp some'
  rw [mapped, if_neg positive, List.takeD_eq_take 0 le_rfl, List.take_length]

/-- As many bytes as the file has replace its contents. -/
theorem storeMapped_whole (disk : Disk Name) (name : Name) (bytes : List UInt8)
    (same : (content disk name).length = bytes.length) :
    storeMapped disk name bytes name = some bytes := by
  simp only [storeMapped, Function.update_self]
  rw [same, List.take_length, ← same, List.drop_length, List.append_nil]

/-- A store that reaches the end of the file decides its length. -/
theorem File.store_length (file : File Name) (disk : Disk Name) (bytes : List UInt8)
    (reaches : (content disk file.name).length ≤ file.position + bytes.length) :
    (content (file.store disk bytes).1 file.name).length = file.position + bytes.length := by
  simp only [File.store, content, Function.update_self, Option.getD_some]
  rw [List.length_append, List.length_append, List.takeD_length, List.length_drop]
  change (content disk file.name).length ≤ _ at reaches
  simp only [content] at reaches
  omega

/-- The source has its contents, and the target was written up to its position on the first disk. -/
structure Moves (disk : Disk Name) (source target : Name) (input output : List UInt8)
    (position : Nat) (copy : Copy Name size) : Prop where
  apart : source ≠ target
  present : disk source = some input
  reads : copy.source = ⟨source, position⟩
  writes : copy.target = ⟨target, output.length⟩
  stored : copy.disk = Function.update disk target (some output)

section Chunk
variable {disk : Disk Name} {source target : Name} {input output : List UInt8} {position : Nat}
  {copy : Copy Name size}

/-- A read finds the next bytes of the source. -/
theorem Moves.ahead (moves : Moves disk source target input output position copy) (count : Nat) :
    copy.ahead count = (input.drop position).take count := by
  rw [Copy.ahead, moves.reads, moves.stored]
  simp only [content, Function.update_of_ne moves.apart, moves.present, Option.getD_some]

/-- A write at the end appends the first bytes of the buffer. -/
theorem Moves.fwrite (moves : Moves disk source target input output position copy) (count : Nat) :
    Moves disk source target input (output ++ copy.buf.bytes.take count) position
      (copy.fwrite count) := by
  refine ⟨moves.apart, moves.present, moves.reads, ?_, ?_⟩
  · simp [Copy.fwrite, moves.writes]
  · have past : output.drop (output.length + (copy.buf.bytes.take count).length) = [] :=
      List.drop_eq_nil_of_le (Nat.le_add_right ..)
    simp only [Copy.fwrite, moves.stored, moves.writes, content, Function.update_self,
      Option.getD_some, past, List.append_nil, Function.update_idem]
    rw [List.takeD_eq_take 0 le_rfl, List.take_length]

/-- A read moves the position, and its bytes begin the buffer. -/
theorem Moves.fread (moves : Moves disk source target input output position copy) (count : Nat)
    (fits : count ≤ size) :
    Moves disk source target input output (position + ((input.drop position).take count).length)
        (copy.fread count fits).2 ∧
      (input.drop position).take count <+: (copy.fread count fits).2.buf.bytes := by
  constructor
  · refine ⟨moves.apart, moves.present, ?_, moves.writes, moves.stored⟩
    simp [Copy.fread, moves.ahead, moves.reads]
  · simp only [Copy.fread, Buffer.write, moves.ahead]
    exact List.prefix_append ..

/-- A read of as many bytes as are then written moves the next bytes of the source to the target. -/
theorem Moves.chunk (moves : Moves disk source target input output position copy) (count : Nat)
    (fits : count ≤ size) :
    Moves disk source target input (output ++ (input.drop position).take count)
      (position + ((input.drop position).take count).length)
      ((copy.fread count fits).2.fwrite ((input.drop position).take count).length) := by
  obtain ⟨read, starts⟩ := moves.fread count fits
  have written := read.fwrite ((input.drop position).take count).length
  rw [← List.prefix_iff_eq_take.mp starts] at written
  exact written

end Chunk

end Stdio

import LinuxSystemProgramming.Construction.SplitMerge

namespace SplitMerge
open CString Stdio

universe u
variable {Name : Type u} [DecidableEq Name]

section Loops
variable {disk : Disk Name} {source target : Name} {input output : List UInt8} {position : Nat}
  {copy : Copy Name maxBuf}

/-- The counted loop copies exactly its count when the source has as many bytes. -/
theorem copyHalf_moves (hSize : Nat)
    (moves : Moves disk source target input output position copy)
    (enough : position + hSize ≤ input.length) :
    Moves disk source target input (output ++ (input.drop position).take hSize)
      (position + hSize) (copyHalf hSize copy) := by
  induction hSize using Nat.strong_induction_on generalizing output position copy with
  | _ hSize ih =>
      rw [copyHalf]
      by_cases positive : 0 < hSize
      · obtain ⟨fits, within, some'⟩ := chunk_bounds hSize
        have nonempty := some' positive
        rw [if_pos positive]
        have full : ((input.drop position).take (chunk hSize)).length = chunk hSize := by
          rw [List.length_take, List.length_drop]
          omega
        have step := moves.chunk (chunk hSize) fits
        rw [full] at step
        have rest := ih (hSize - chunk hSize) (by omega) step (by omega)
        have joined : (input.drop position).take (chunk hSize) ++
            (input.drop (position + chunk hSize)).take (hSize - chunk hSize) =
              (input.drop position).take hSize := by
          rw [← List.drop_drop, ← List.take_add, Nat.add_sub_cancel' within]
        rw [List.append_assoc, joined, Nat.add_assoc, Nat.add_sub_cancel' within] at rest
        exact rest
      · have zero : hSize = 0 := by omega
        subst zero
        simpa using moves

/-- The loop to the end copies the rest of the source and ends. -/
theorem copyRest_moves (fuel : Nat)
    (moves : Moves disk source target input output position copy)
    (inside : position ≤ input.length) (enough : input.length - position < fuel) :
    ∃ final, copyRest fuel copy = some final ∧
      Moves disk source target input (output ++ input.drop position) input.length final := by
  induction fuel generalizing output position copy with
  | zero => omega
  | succ fuel ih =>
      have read : (copy.fread maxBuf le_rfl).1 = ((input.drop position).take maxBuf).length :=
        congrArg List.length (moves.ahead maxBuf)
      have size : ((input.drop position).take maxBuf).length =
          min maxBuf (input.length - position) := by
        rw [List.length_take, List.length_drop]
      rw [copyRest]
      by_cases more : position < input.length
      · have some' : 0 < (copy.fread maxBuf le_rfl).1 := by
          rw [read, size, maxBuf]
          omega
        rw [if_pos some', read]
        obtain ⟨final, ended, rest⟩ := ih (moves.chunk maxBuf le_rfl)
          (by rw [size]; omega) (by rw [size, maxBuf]; omega)
        refine ⟨final, ended, ?_⟩
        have joined : (input.drop position).take maxBuf ++
            input.drop (position + ((input.drop position).take maxBuf).length) =
              input.drop position := by
          rw [← List.drop_drop, List.length_take]
          rcases Nat.le_total maxBuf (input.drop position).length with long | short
          · rw [Nat.min_eq_left long, List.take_append_drop]
          · rw [Nat.min_eq_right short, List.take_of_length_le short, List.drop_length,
              List.append_nil]
        rw [List.append_assoc, joined] at rest
        exact rest
      · have all : position = input.length := by omega
        subst all
        have none : ¬ 0 < (copy.fread maxBuf le_rfl).1 := by
          rw [read, size]
          omega
        rw [if_neg none]
        rw [List.drop_length, List.append_nil]
        refine ⟨_, rfl, moves.apart, moves.present, ?_, moves.writes, moves.stored⟩
        simp [Copy.fread, moves.ahead, moves.reads]

end Loops

variable {disk : Disk Name} {source dst1 dst2 dest : Name} {f : List UInt8}

/-- The first loop of `split` stops in the middle of the source. -/
theorem firstHalf_moves (present : disk source = some f) (first : source ≠ dst1)
    (second : source ≠ dst2) (apart : dst1 ≠ dst2) (buf : Buffer maxBuf) :
    ∃ half, firstHalf source dst1 dst2 disk buf = some (half, ⟨dst2, 0⟩) ∧
      Moves (Function.update disk dst2 (some [])) source dst1 f (f.take (f.length / 2))
        (f.length / 2) half := by
  have opened : content (Function.update (Function.update disk dst1 (some [])) dst2 (some []))
      source = f := by
    simp [content, first, second, present]
  have start : Moves (Function.update disk dst2 (some [])) source dst1 f [] 0
      (⟨Function.update (Function.update disk dst1 (some [])) dst2 (some []), ⟨source, 0⟩,
        ⟨dst1, 0⟩, buf⟩ : Copy Name maxBuf) := by
    refine ⟨first, by simp [second, present], rfl, rfl, ?_⟩
    exact Function.update_comm apart (some []) (some []) disk
  have moves := copyHalf_moves (f.length / 2) start (by omega)
  rw [List.nil_append, List.drop_zero, Nat.zero_add] at moves
  refine ⟨_, ?_, moves⟩
  simp [firstHalf, openRead, openWrite, filesize, File.seekEnd, present, opened]

/-- `split` writes the two halves and keeps the source. -/
theorem split_halves (present : disk source = some f) (first : source ≠ dst1)
    (second : source ≠ dst2) (apart : dst1 ≠ dst2) (buf : Buffer maxBuf) (fuel : Nat)
    (enough : f.length < fuel) :
    split fuel source dst1 dst2 disk buf =
      some (Function.update (Function.update disk dst1 (some (f.take (f.length / 2)))) dst2
        (some (f.drop (f.length / 2)))) := by
  obtain ⟨half, run, moves⟩ := firstHalf_moves present first second apart buf
  have middle : Moves (Function.update disk dst1 (some (f.take (f.length / 2)))) source dst2 f []
      (f.length / 2) { half with target := ⟨dst2, 0⟩ } := by
    refine ⟨second, by simp [first, present], moves.reads, rfl, ?_⟩
    rw [moves.stored]
    exact Function.update_comm apart.symm _ _ disk
  obtain ⟨final, ended, rest⟩ := copyRest_moves fuel middle (by omega) (by omega)
  rw [split, run, Option.bind_some, ended, Option.map_some, rest.stored, List.nil_append]

/-- `merge` writes one content behind the other. -/
theorem merge_append (disk : Disk Name) {front back : List UInt8} (left : disk dst1 = some front)
    (right : disk dst2 = some back) (first : dst1 ≠ dest) (second : dst2 ≠ dest)
    (buf : Buffer maxBuf) (fuel : Nat) (enough : front.length + back.length < fuel) :
    merge fuel dst1 dst2 dest disk buf =
      some (Function.update disk dest (some (front ++ back))) := by
  have start : Moves disk dst1 dest front [] 0 (⟨Function.update disk dest (some []), ⟨dst1, 0⟩,
      ⟨dest, 0⟩, buf⟩ : Copy Name maxBuf) := ⟨first, left, rfl, rfl, rfl⟩
  obtain ⟨middle, ended, moves⟩ := copyRest_moves fuel start (Nat.zero_le _) (by omega)
  rw [List.nil_append, List.drop_zero] at moves
  have next : Moves disk dst2 dest back front 0 { middle with source := ⟨dst2, 0⟩ } :=
    ⟨second, right, rfl, moves.writes, moves.stored⟩
  obtain ⟨final, finished, rest⟩ := copyRest_moves fuel next (Nat.zero_le _) (by omega)
  simp only [merge, openRead, openWrite, left, right, Option.map_some, Option.bind_some, ended,
    finished, rest.stored, List.drop_zero]

/-- `split` stops its first loop in the middle, writes the two halves, and `merge` restores the file. -/
theorem mergeRestores {Name : Type u} [DecidableEq Name] (disk : Disk Name)
    (source dst1 dst2 dest : Name) (f : List UInt8) (present : disk source = some f)
    (distinct : [source, dst1, dst2].Nodup) (other : dest ∉ [dst1, dst2]) (buf stale : Buffer maxBuf)
    (fuel : Nat) (enough : f.length < fuel) :
    ∃ half parts merged, firstHalf source dst1 dst2 disk buf = some (half, ⟨dst2, 0⟩) ∧
      half.source = ⟨source, f.length / 2⟩ ∧
      split fuel source dst1 dst2 disk buf = some parts ∧
      parts source = some f ∧
      parts dst1 = some (f.take (f.length / 2)) ∧
      parts dst2 = some (f.drop (f.length / 2)) ∧
      merge fuel dst1 dst2 dest parts stale = some merged ∧
      merged dest = some f := by
  simp only [List.nodup_cons, List.mem_cons, List.not_mem_nil, or_false, not_or] at distinct other
  obtain ⟨⟨first, second⟩, apart, _⟩ := distinct
  obtain ⟨half, run, moves⟩ := firstHalf_moves present first second apart buf
  have halves := split_halves present first second apart buf fuel enough
  have merged := merge_append (Function.update (Function.update disk dst1
      (some (f.take (f.length / 2)))) dst2 (some (f.drop (f.length / 2))))
    (by rw [Function.update_of_ne apart, Function.update_self]) (Function.update_self ..)
    (Ne.symm other.1) (Ne.symm other.2) stale fuel
    (by rw [← List.length_append, List.take_append_drop]; exact enough)
  refine ⟨half, _, _, run, moves.reads, halves, ?_, ?_, ?_, merged, ?_⟩
  · simp [first, second, present]
  · simp [apart]
  · simp
  · simp

/-- Three bytes are split into one and two, and they are merged again. -/
theorem mergeRestores_run : ∃ parts merged,
    split 4 0 1 2 (fun name => if name = 0 then some [1, 2, 3] else none) (.fill maxBuf 0) =
      some parts ∧ parts 1 = some [1] ∧ parts 2 = some [2, 3] ∧
    merge 4 1 2 3 parts (.fill maxBuf 0) = some merged ∧ merged 3 = some [1, 2, 3] := by
  obtain ⟨_, parts, merged, _, _, halves, _, first, second, joined, whole⟩ :=
    mergeRestores (fun name => if name = 0 then some [1, 2, 3] else none) 0 1 2 3 [1, 2, 3] rfl
      (by decide) (by decide) (.fill maxBuf 0) (.fill maxBuf 0) 4 (by decide)
  exact ⟨parts, merged, halves, first, second, joined, whole⟩

end SplitMerge

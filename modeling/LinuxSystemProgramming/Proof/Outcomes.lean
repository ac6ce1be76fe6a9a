import LinuxSystemProgramming.Proof.Mycp

namespace SplitMerge
open CString Stdio Mycp

universe u
variable {Name : Type u} [DecidableEq Name]

/-- The first calls move the first chunk, and the others move the rest. -/
theorem fills_step (answers : Nat → Answer × Answer) (hSize : Nat) (more : 0 < hSize) :
    Fills answers hSize ↔
      chunk hSize ≤ (answers 0).1.most ∧ chunk hSize ≤ (answers 0).2.most ∧
        Fills (fun i => answers (i + 1)) (hSize - chunk hSize) := by
  have least : chunk hSize = min 1024 hSize := by
    unfold chunk maxBuf
    split <;> omega
  simp only [Fills, maxBuf, least]
  constructor
  · intro fills
    obtain ⟨reads, writes⟩ := fills 0 (by omega)
    refine ⟨by omega, by omega, ?_⟩
    intro i below
    have next := fills (i + 1) (by omega)
    omega
  · rintro ⟨reads, writes, later⟩ i below
    cases i with
    | zero => omega
    | succ i =>
        have next := later i (by omega)
        omega

section Healthy

omit [DecidableEq Name] in
/-- A call that is answered with its whole buffer reads as it does without answers. -/
theorem fread_healthy (traced : Traced Name maxBuf) (count : Nat) (fits : count ≤ maxBuf) :
    (traced.fread count fits (.moved maxBuf)).1 = (traced.copy.fread count fits).1 ∧
      (traced.fread count fits (.moved maxBuf)).2.copy = (traced.copy.fread count fits).2 := by
  have whole : min count (Answer.moved maxBuf).most = count := Nat.min_eq_left fits
  simp only [Traced.fread, whole, and_self]

theorem fwrite_healthy (traced : Traced Name maxBuf) (count : Nat) (fits : count ≤ maxBuf) :
    (traced.fwrite count (.moved maxBuf)).copy = traced.copy.fwrite count := by
  have whole : min count (Answer.moved maxBuf).most = count := Nat.min_eq_left fits
  simp only [Traced.fwrite, whole]

theorem copyHalfAnswered_healthy (hSize : Nat) (traced : Traced Name maxBuf) :
    (copyHalfAnswered hSize (healthy maxBuf) traced).copy = copyHalf hSize traced.copy := by
  induction hSize using Nat.strong_induction_on generalizing traced with
  | _ hSize inductionHypothesis =>
      rw [copyHalfAnswered, copyHalf]
      by_cases positive : 0 < hSize
      · obtain ⟨fits, within, more⟩ := chunk_bounds hSize
        have nonempty := more positive
        rw [if_pos positive, if_pos positive]
        have later := inductionHypothesis (hSize - chunk hSize) (by omega)
          ((traced.fread (chunk hSize) fits (.moved maxBuf)).2.fwrite (chunk hSize)
            (.moved maxBuf))
        rw [fwrite_healthy _ _ fits, (fread_healthy traced _ fits).2] at later
        exact later
      · rw [if_neg positive, if_neg positive]

theorem copyAll_healthy (fuel : Nat) (traced : Traced Name maxBuf) :
    (Traced.copyAll fuel (healthy maxBuf) traced).map Traced.copy = copyRest fuel traced.copy := by
  induction fuel generalizing traced with
  | zero => rfl
  | succ fuel inductionHypothesis =>
      obtain ⟨count, moved⟩ := fread_healthy traced maxBuf le_rfl
      have fits : (traced.copy.fread maxBuf le_rfl).1 ≤ maxBuf := List.length_take_le ..
      rw [Traced.copyAll, copyRest]
      simp only [healthy, count]
      split
      · have later := inductionHypothesis
          ((traced.fread maxBuf le_rfl (.moved maxBuf)).2.fwrite
            (traced.copy.fread maxBuf le_rfl).1 (.moved maxBuf))
        rw [fwrite_healthy _ _ fits, moved] at later
        exact later
      · exact congrArg some moved

theorem disk_copyAll_healthy (fuel : Nat) (traced : Traced Name maxBuf) :
    (Traced.copyAll fuel (healthy maxBuf) traced).map (fun ended => ended.copy.disk) =
      (copyRest fuel traced.copy).map fun copied => copied.disk := by
  rw [← copyAll_healthy, Option.map_map]
  rfl

/-- With healthy calls, `splitAnswered` is `split`. -/
theorem splitAnswered_healthy (disk : Disk Name) (source dst1 dst2 : Name)
    (present : (disk source).isSome) (buf : Buffer maxBuf) (fuel : Nat) :
    (splitAnswered fuel (healthy maxBuf) (healthy maxBuf) allOpen source dst1 dst2 disk buf).map
        Exit.disk =
      split fuel source dst1 dst2 disk buf := by
  obtain ⟨f, present⟩ := Option.isSome_iff_exists.mp present
  simp only [splitAnswered, split, firstHalf, openRead, present, allOpen, Option.map_some,
    Option.filter_some, if_true, Option.bind_some, Option.map_map]
  refine (disk_copyAll_healthy fuel _).trans ?_
  simp only [copyHalfAnswered_healthy]

/-- With healthy calls, `mergeAnswered` is `merge`. -/
theorem mergeAnswered_healthy (disk : Disk Name) (source1 source2 dest : Name)
    (left : (disk source1).isSome) (right : (disk source2).isSome) (buf : Buffer maxBuf)
    (fuel : Nat) :
    (mergeAnswered fuel (healthy maxBuf) (healthy maxBuf) allOpen source1 source2 dest disk
        buf).map Exit.disk =
      merge fuel source1 source2 dest disk buf := by
  obtain ⟨front, left⟩ := Option.isSome_iff_exists.mp left
  obtain ⟨back, right⟩ := Option.isSome_iff_exists.mp right
  simp only [mergeAnswered, merge, openRead, left, right, allOpen, Option.map_some,
    Option.filter_some, if_true, Option.bind_some, Option.map_bind]
  rw [← copyAll_healthy fuel ⟨⟨_, _, _, buf⟩, [], []⟩, Option.bind_map]
  congr 1
  funext copied
  simp only [Function.comp_apply, Option.map_map]
  exact disk_copyAll_healthy fuel _

end Healthy

section Half
variable {disk : Disk Name} {source target : Name} {input output : List UInt8} {position : Nat}
  {traced : Traced Name maxBuf}

/-- A counted round stores as many bytes as its write lets it, fresh or not. -/
theorem counted_moves (count : Nat) (fits : count ≤ maxBuf) (reply store : Answer)
    (moves : Moves disk source target input output position traced.copy)
    (enough : position + count ≤ input.length) :
    ∃ stored, stored.length = min count store.most ∧
      Moves disk source target input (output ++ stored) (position + min count reply.most)
        ((traced.fread count fits reply).2.fwrite count store).copy ∧
      (Fresh ((traced.fread count fits reply).2.fwrite count store).writes ↔
        Fresh traced.writes ∧ min count store.most ≤ min count reply.most) ∧
      (min count store.most ≤ min count reply.most →
        stored = (input.drop position).take (min count store.most)) := by
  obtain ⟨_, moved, starts, last, writes⟩ := traced.fread_moves count fits reply moves
  have found : ((input.drop position).take (min count reply.most)).length =
      min count reply.most := by
    rw [List.length_take, List.length_drop]
    omega
  rw [found] at moved
  let stored := (traced.fread count fits reply).2.copy.buf.bytes.take (min count store.most)
  have length : stored.length = min count store.most := by
    rw [List.length_take, Buffer.sized]
    omega
  have begins : stored <+: (input.drop position).take (min count reply.most) ↔
      min count store.most ≤ min count reply.most := by
    constructor
    · intro inside
      have longer := inside.length_le
      rw [length, found] at longer
      exact longer
    · intro longer
      exact List.prefix_of_prefix_length_le (List.take_prefix ..) starts
        (by rw [found]; exact length.trans_le longer)
  refine ⟨stored, length, moved.fwrite _, ?_, ?_⟩
  · simp only [Traced.fwrite]
    rw [fresh_append, last, writes, begins]
  · intro fresh
    have same := List.prefix_iff_eq_take.mp (begins.mpr fresh)
    rw [length, List.take_take, Nat.min_eq_left fresh] at same
    exact same

/-- The counted loop copies its bytes and writes only fresh ones if and only if no call is short. -/
theorem copyHalfAnswered_moves (traced : Traced Name maxBuf) (hSize : Nat)
    (answers : Nat → Answer × Answer)
    (moves : Moves disk source target input output position traced.copy)
    (enough : position + hSize ≤ input.length) :
    ∃ ended copied,
      Moves disk source target input (output ++ copied) ended
        (copyHalfAnswered hSize answers traced).copy ∧
      copied.length ≤ hSize ∧
      (Fresh (copyHalfAnswered hSize answers traced).writes → Fresh traced.writes) ∧
      (copied = (input.drop position).take hSize ∧
          Fresh (copyHalfAnswered hSize answers traced).writes ↔
        Fresh traced.writes ∧ Fills answers hSize) ∧
      (Fills answers hSize → ended = position + hSize) := by
  induction hSize using Nat.strong_induction_on
    generalizing answers output position traced with
  | _ hSize ih =>
      rw [copyHalfAnswered]
      by_cases positive : 0 < hSize
      · obtain ⟨fits, within, some'⟩ := chunk_bounds hSize
        have nonempty := some' positive
        rw [if_pos positive]
        obtain ⟨stored, length, round, fresh, same⟩ := counted_moves (chunk hSize) fits
          (answers 0).1 (answers 0).2 moves (by omega)
        obtain ⟨ended, copied, rest, bound, kept, all, reaches⟩ :=
          ih (hSize - chunk hSize) (by omega) _ (fun i => answers (i + 1)) round (by omega)
        refine ⟨ended, stored ++ copied, by rw [← List.append_assoc]; exact rest, ?_,
          fun final => (fresh.mp (kept final)).1, ?_, ?_⟩
        · rw [List.length_append]
          omega
        · have left : (input.drop position).length = input.length - position := List.length_drop
          have inside : hSize ≤ (input.drop position).length := by omega
          have short : stored.length ≤ chunk hSize := by omega
          have halves := append_eq_take_iff within inside short bound
          rw [List.drop_drop] at halves
          rw [halves, fills_step answers hSize positive]
          constructor
          · rintro ⟨⟨first, second⟩, final⟩
            have full : (input.drop position |>.take (chunk hSize)).length = chunk hSize := by
              rw [List.length_take, List.length_drop]
              omega
            rw [← first, length] at full
            obtain ⟨before, read⟩ := fresh.mp (kept final)
            have whole : min (chunk hSize) (answers 0).1.most = chunk hSize := by omega
            rw [whole] at all
            exact ⟨before, by omega, by omega, (all.mp ⟨second, final⟩).2⟩
          · rintro ⟨before, read, write, later⟩
            have whole : min (chunk hSize) (answers 0).1.most = chunk hSize := by omega
            have stores : min (chunk hSize) (answers 0).2.most = chunk hSize := by omega
            rw [whole, stores] at fresh same
            rw [whole] at all
            obtain ⟨second, final⟩ := all.mpr ⟨fresh.mpr ⟨before, le_rfl⟩, later⟩
            exact ⟨⟨same le_rfl, second⟩, final⟩
        · intro fills
          obtain ⟨read, _, later⟩ := (fills_step answers hSize positive).mp fills
          have next := reaches later
          omega
      · have zero : hSize = 0 := by omega
        subst zero
        refine ⟨position, [], by simpa using moves, le_rfl, ?_, ?_, fun _ => rfl⟩
        · simp
        · have none : Fills answers 0 := fun i below => absurd below (Nat.not_lt_zero _)
          simp [none]

end Half

section Programs
variable {disk : Disk Name} {source target source1 source2 dst1 dst2 dest : Name}
  {f front back : List UInt8}

/-- A copy program is honest if and only if its answers serve the source. -/
theorem copyFile_honest {size : Nat} (present : disk source = some f) (apart : source ≠ target)
    (answers : Nat → Answer × Answer) (opens : Nat → Bool) (buf : Buffer size) (fuel : Nat)
    (enough : f.length < fuel) :
    ∃ exit, copyFile (Traced.copyAll fuel answers) opens source target disk buf = some exit ∧
      (exit.Honest [(target, f)] ↔
        (opens 0 = true ∧ opens 1 = true → Serves size answers f.length)) := by
  obtain ⟨exit, run, status, copied, fresh⟩ :=
    copyFile_exit present apart answers opens buf fuel enough
  refine ⟨exit, run, ?_⟩
  rw [Exit.Honest, and_iff_left fresh, List.forall_mem_singleton, ← status]
  exact forall_congr' copied

/-- The second loop of `split` keeps the first part and copies the rest of the source. -/
theorem secondPart_moves (present : disk source = some f) (first : source ≠ dst1)
    (second : source ≠ dst2) (apart : dst1 ≠ dst2) {copied : List UInt8} {middle : Nat}
    {traced : Traced Name maxBuf}
    (moves : Moves (Function.update disk dst2 (some [])) source dst1 f copied middle traced.copy)
    (rest : Nat → Answer × Answer) (fuel : Nat) (enough : f.length < fuel) :
    ∃ final, Traced.copyAll fuel rest
        { traced with copy := { traced.copy with target := ⟨dst2, 0⟩ } } = some final ∧
      final.copy.disk dst1 = some copied ∧
      (final.copy.disk dst2 = some (f.drop middle) ↔ Serves maxBuf rest (f.length - middle)) ∧
      (Fresh final.writes ↔ Fresh traced.writes) := by
  have turned : Moves (Function.update disk dst1 (some copied)) source dst2 f [] middle
      { traced.copy with target := ⟨dst2, 0⟩ } := by
    refine ⟨second, by simp [first, present], moves.reads, rfl, ?_⟩
    rw [moves.stored]
    exact Function.update_comm apart.symm _ _ disk
  obtain ⟨final, _, copied', run, ends, fresh, _, serves⟩ :=
    Traced.copyAll_moves ⟨_, traced.last, traced.writes⟩ fuel rest turned (by omega)
  refine ⟨final, run, ?_, ?_, fresh⟩
  · rw [ends.stored, Function.update_of_ne apart, Function.update_self]
  · rw [← serves, ends.stored, Function.update_self, List.nil_append, Option.some.injEq]

/-- `split` is honest if and only if its calls fill the first half and serve the rest. -/
theorem splitAnswered_honest (present : disk source = some f) (first : source ≠ dst1)
    (second : source ≠ dst2) (apart : dst1 ≠ dst2) (half rest : Nat → Answer × Answer)
    (opens : Nat → Bool) (buf : Buffer maxBuf) (fuel : Nat) (enough : f.length < fuel) :
    ∃ exit, splitAnswered fuel half rest opens source dst1 dst2 disk buf = some exit ∧
      (exit.Honest [(dst1, f.take (f.length / 2)), (dst2, f.drop (f.length / 2))] ↔
        (opens 0 = true ∧ opens 1 = true ∧ opens 2 = true →
          Fills half (f.length / 2) ∧ Serves maxBuf rest (f.length - f.length / 2))) := by
  rw [splitAnswered, openRead, present]
  cases source' : opens 0 with
  | false => exact ⟨_, rfl, by simp [Exit.Honest]⟩
  | true =>
  cases first' : opens 1 with
  | false => exact ⟨_, rfl, by simp [Exit.Honest]⟩
  | true =>
  cases second' : opens 2 with
  | false => exact ⟨_, rfl, by simp [Exit.Honest]⟩
  | true =>
      have opened : content (Function.update (Function.update disk dst1 (some [])) dst2 (some []))
          source = f := by
        simp [content, first, second, present]
      have start : Moves (Function.update disk dst2 (some [])) source dst1 f [] 0
          (⟨Function.update (Function.update disk dst1 (some [])) dst2 (some []), ⟨source, 0⟩,
            ⟨dst1, 0⟩, buf⟩ : Copy Name maxBuf) := by
        refine ⟨first, by simp [second, present], rfl, rfl, ?_⟩
        exact Function.update_comm apart (some []) (some []) disk
      obtain ⟨middle, copied, moves, _, _, fills, reaches⟩ :=
        copyHalfAnswered_moves ⟨_, [], []⟩ (f.length / 2) half start (by omega)
      rw [List.nil_append] at moves
      rw [List.drop_zero] at fills
      obtain ⟨final, run, part, serves, fresh⟩ :=
        secondPart_moves present first second apart moves rest fuel enough
      refine ⟨⟨0, final.copy.disk, final.writes⟩, ?_, ?_⟩
      · simp only [Option.map_some, Option.filter_some, if_true, openWrite, filesize,
          File.seekEnd, opened, run]
      · simp only [Exit.Honest, List.forall_mem_cons, List.not_mem_nil, false_implies,
          implies_true, and_true, part, Option.some.injEq, fresh, forall_const]
        constructor
        · rintro ⟨⟨front', back'⟩, clean⟩
          have filled := (fills.mp ⟨front', clean⟩).2
          rw [reaches filled, Nat.zero_add] at serves
          exact ⟨filled, serves.mp back'⟩
        · rintro ⟨filled, served⟩
          obtain ⟨front', clean⟩ := fills.mpr ⟨fresh_nil, filled⟩
          rw [reaches filled, Nat.zero_add] at serves
          exact ⟨⟨front', serves.mpr served⟩, clean⟩

/-- `merge` is honest if and only if its answers serve both sources. -/
theorem mergeAnswered_honest (left : disk source1 = some front) (right : disk source2 = some back)
    (apart1 : source1 ≠ dest) (apart2 : source2 ≠ dest) (first second : Nat → Answer × Answer)
    (opens : Nat → Bool) (buf : Buffer maxBuf) (fuel : Nat)
    (enough : front.length + back.length < fuel) :
    ∃ exit, mergeAnswered fuel first second opens source1 source2 dest disk buf = some exit ∧
      (exit.Honest [(dest, front ++ back)] ↔
        (opens 0 = true ∧ opens 1 = true ∧ opens 2 = true →
          Serves maxBuf first front.length ∧ Serves maxBuf second back.length)) := by
  rw [mergeAnswered, openRead, openRead, left, right]
  cases first' : opens 0 with
  | false => exact ⟨_, rfl, by simp [Exit.Honest]⟩
  | true =>
  cases second' : opens 1 with
  | false => exact ⟨_, rfl, by simp [Exit.Honest]⟩
  | true =>
  cases third' : opens 2 with
  | false => exact ⟨_, rfl, by simp [Exit.Honest]⟩
  | true =>
      have start : Moves disk source1 dest front [] 0 (⟨Function.update disk dest (some []),
          ⟨source1, 0⟩, ⟨dest, 0⟩, buf⟩ : Copy Name maxBuf) := ⟨apart1, left, rfl, rfl, rfl⟩
      obtain ⟨middle, _, copied1, run1, moves, fresh1, bound1, serves1⟩ :=
        Traced.copyAll_moves ⟨_, [], []⟩ fuel first start (by omega)
      have next : Moves disk source2 dest back ([] ++ copied1) 0
          { middle.copy with source := ⟨source2, 0⟩ } :=
        ⟨apart2, right, rfl, moves.writes, moves.stored⟩
      obtain ⟨final, _, copied2, run2, ends, fresh2, bound2, serves2⟩ :=
        Traced.copyAll_moves ⟨_, middle.last, middle.writes⟩ fuel second next (by omega)
      rw [Nat.sub_zero] at bound1 bound2
      rw [List.drop_zero, Nat.sub_zero] at serves1 serves2
      refine ⟨⟨0, final.copy.disk, final.writes⟩, ?_, ?_⟩
      · simp only [Option.map_some, Option.filter_some, if_true, openWrite, run1,
          Option.bind_some, run2]
      · have clean : Fresh final.writes := fresh2.mpr (fresh1.mpr fresh_nil)
        have pieces : copied1 ++ copied2 = front ++ back ↔ copied1 = front ∧ copied2 = back := by
          have sum : (front ++ back).length = front.length + back.length := List.length_append
          rw [append_eq_iff_whole (by omega : front.length ≤ (front ++ back).length) bound1
            (by omega), List.take_left, List.drop_left]
        simp only [Exit.Honest, List.forall_mem_singleton, and_iff_left clean, forall_const,
          ends.stored, Function.update_self, List.nil_append, Option.some.injEq, pieces,
          serves1, serves2, and_self]

end Programs

/-- The four programs are honest if and only if no call after successful opens is short or fails early. -/
theorem honest_iff {Name : Type u} [DecidableEq Name] (disk : Disk Name)
    (source target source1 source2 dst1 dst2 dest : Name) (f front back : List UInt8)
    (present : disk source = some f) (left : disk source1 = some front)
    (right : disk source2 = some back) (copies : source ≠ target)
    (parts : [source, dst1, dst2].Nodup) (joins : dest ∉ [source1, source2])
    (first second : Nat → Answer × Answer) (opens : Nat → Bool) (byte : Buffer 1)
    (block : Buffer maxBuf) (fuel : Nat) (enough : f.length + front.length + back.length < fuel) :
    (∃ exit, mycp fuel first opens source target disk byte = some exit ∧
      (exit.Honest [(target, f)] ↔
        (opens 0 = true ∧ opens 1 = true → Serves 1 first f.length))) ∧
    (∃ exit, mycp2 fuel first opens source target disk block = some exit ∧
      (exit.Honest [(target, f)] ↔
        (opens 0 = true ∧ opens 1 = true → Serves maxBuf first f.length))) ∧
    (∃ exit, splitAnswered fuel first second opens source dst1 dst2 disk block = some exit ∧
      (exit.Honest [(dst1, f.take (f.length / 2)), (dst2, f.drop (f.length / 2))] ↔
        (opens 0 = true ∧ opens 1 = true ∧ opens 2 = true →
          Fills first (f.length / 2) ∧ Serves maxBuf second (f.length - f.length / 2)))) ∧
    (∃ exit, mergeAnswered fuel first second opens source1 source2 dest disk block = some exit ∧
      (exit.Honest [(dest, front ++ back)] ↔
        (opens 0 = true ∧ opens 1 = true ∧ opens 2 = true →
          Serves maxBuf first front.length ∧ Serves maxBuf second back.length))) := by
  simp only [List.nodup_cons, List.mem_cons, List.not_mem_nil, or_false, not_or] at parts joins
  obtain ⟨⟨part1, part2⟩, apart, _⟩ := parts
  refine ⟨?_, ?_, ?_, ?_⟩
  · rw [mycp_eq]
    exact copyFile_honest present copies first opens byte fuel (by omega)
  · exact copyFile_honest present copies first opens block fuel (by omega)
  · exact splitAnswered_honest present part1 part2 apart first second opens block fuel (by omega)
  · exact mergeAnswered_honest left right (Ne.symm joins.1) (Ne.symm joins.2) first second opens
      block fuel (by omega)

/-- The four programs copy, split and merge one byte when their calls move everything. -/
theorem honest_single :
    let disk : Disk Nat := fun name => if name = 0 then some [7] else none
    let served := healthy maxBuf
    (∃ exit, mycp 4 served allOpen 0 1 disk (.fill 1 0) = some exit ∧
      (exit.Honest [(1, [7])] ↔ (True ∧ True → Serves 1 served 1))) ∧
    (∃ exit, mycp2 4 served allOpen 0 1 disk (.fill maxBuf 0) = some exit ∧
      (exit.Honest [(1, [7])] ↔ (True ∧ True → Serves maxBuf served 1))) ∧
    (∃ exit, splitAnswered 4 served served allOpen 0 1 2 disk (.fill maxBuf 0) = some exit ∧
      (exit.Honest [(1, []), (2, [7])] ↔
        (True ∧ True ∧ True → Fills served 0 ∧ Serves maxBuf served 1))) ∧
    (∃ exit, mergeAnswered 4 served served allOpen 0 0 1 disk (.fill maxBuf 0) = some exit ∧
      (exit.Honest [(1, [7, 7])] ↔
        (True ∧ True ∧ True → Serves maxBuf served 1 ∧ Serves maxBuf served 1))) := by
  have every := honest_iff (fun name => if name = 0 then some [7] else none) 0 1 0 0 1 2 1
    [7] [7] [7] rfl rfl rfl (by decide) (by decide) (by decide) (healthy maxBuf)
    (healthy maxBuf) allOpen (.fill 1 0) (.fill maxBuf 0) 4 (by decide)
  simpa [allOpen] using every

/-- A failed read makes `mycp` report success for an empty copy, and a short one makes `split` write a stale byte. -/
theorem success_without_result :
    let disk : Disk Nat := fun name => if name = 0 then some [7, 8] else none
    let fails : Nat → Answer × Answer := fun _ => (.failed, .moved 1024)
    (∃ exit, mycp 1 fails allOpen 0 1 disk (.fill 1 0) = some exit ∧
      exit.status = 0 ∧ exit.disk 1 = some [] ∧ ¬ exit.Honest [(1, [7, 8])]) ∧
    ∃ exit, splitAnswered 3 fails (healthy maxBuf) allOpen 0 1 2 disk (.fill maxBuf 0) =
        some exit ∧
      exit.status = 0 ∧ exit.disk 1 = some [0] ∧ exit.disk 2 = some [7, 8] ∧
        exit.writes.head? = some ([], [0]) ∧ ¬ exit.Honest [(1, [7]), (2, [8])] := by
  intro disk fails
  have copied : (mycp 1 fails allOpen 0 1 disk (.fill 1 0)).any (fun exit =>
      exit.status = 0 ∧ exit.disk 1 = some []) = true := by decide +kernel
  have parted : (splitAnswered 3 fails (healthy maxBuf) allOpen 0 1 2 disk (.fill maxBuf 0)).any
      (fun exit => exit.status = 0 ∧ exit.disk 1 = some [0] ∧ exit.disk 2 = some [7, 8] ∧
        exit.writes.head? = some ([], [0])) = true := by decide +kernel
  constructor
  · obtain ⟨exit, run, shown⟩ := (Option.any_eq_true _ _).mp copied
    obtain ⟨status, empty⟩ := of_decide_eq_true shown
    refine ⟨exit, run, status, empty, ?_⟩
    intro honest
    have whole := honest.1 status (1, [7, 8]) (List.mem_singleton_self _)
    rw [empty] at whole
    cases whole
  · obtain ⟨exit, run, shown⟩ := (Option.any_eq_true _ _).mp parted
    obtain ⟨status, first, second, write⟩ := of_decide_eq_true shown
    refine ⟨exit, run, status, first, second, write, ?_⟩
    intro honest
    have begins := honest.2 _ (List.mem_of_head? write)
    cases List.prefix_nil.mp begins

end SplitMerge

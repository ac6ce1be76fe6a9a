import LinuxSystemProgramming.Construction.Mycp

namespace Mycp
open CString Stdio SplitMerge

universe u
variable {Name : Type u} [DecidableEq Name] {size : Nat}

/-- The comparison in `cnt` does not matter for a buffer of one byte. -/
theorem copyBytes_eq (fuel : Nat) (answers : Nat → Answer × Answer) (traced : Traced Name 1) :
    copyBytes fuel answers traced = traced.copyAll fuel answers := by
  induction fuel generalizing answers traced with
  | zero => rfl
  | succ fuel ih =>
      have bound : (traced.fread 1 le_rfl (answers 0).1).1 ≤ min 1 (answers 0).1.most :=
        List.length_take_le ..
      have positive : 0 < (traced.read 1 le_rfl (answers 0).1).1 ↔
          0 < (traced.fread 1 le_rfl (answers 0).1).1 := by
        simp only [Traced.read]
        split
        case isTrue failed =>
            have nothing : (answers 0).1.most = 0 := by rw [failed, Answer.most]
            omega
        case isFalse => omega
      rw [copyBytes, Traced.copyAll]
      by_cases some' : 0 < (traced.fread 1 le_rfl (answers 0).1).1
      · have one : (traced.fread 1 le_rfl (answers 0).1).1 = 1 := by omega
        simp only [positive, some', if_true, ne_eq, one_ne_zero, not_false_eq_true]
        rw [ih, one]
        rfl
      · simp only [positive, some', if_false, ne_eq, not_true_eq_false]
        rfl

/-- `mycp` copies with the loop of `mycp2` and a smaller buffer. -/
theorem mycp_eq (fuel : Nat) (answers : Nat → Answer × Answer) (opens : Nat → Bool)
    (source target : Name) (disk : Disk Name) (buf : Buffer 1) :
    mycp fuel answers opens source target disk buf =
      copyFile (Traced.copyAll fuel answers) opens source target disk buf := by
  unfold mycp
  congr 1
  funext traced
  exact copyBytes_eq fuel answers traced

section Files
variable {disk : Disk Name} {source target : Name} {f : List UInt8}

/-- The copy programs end, they write only fresh bytes, and the answers decide if the copy is whole. -/
theorem copyFile_exit (present : disk source = some f) (apart : source ≠ target)
    (answers : Nat → Answer × Answer) (opens : Nat → Bool) (buf : Buffer size) (fuel : Nat)
    (enough : f.length < fuel) :
    ∃ exit, copyFile (Traced.copyAll fuel answers) opens source target disk buf = some exit ∧
      (exit.status = 0 ↔ opens 0 = true ∧ opens 1 = true) ∧
      (exit.status = 0 → (exit.disk target = some f ↔ Serves size answers f.length)) ∧
      Fresh exit.writes := by
  rw [copyFile, openRead, present]
  cases first : opens 0 with
  | false => exact ⟨_, rfl, by simp, by simp, fresh_nil⟩
  | true =>
      cases second : opens 1 with
      | false => exact ⟨_, rfl, by simp, by simp, fresh_nil⟩
      | true =>
          have start : Moves disk source target f [] 0
              (⟨(openWrite disk target).1, ⟨source, 0⟩, (openWrite disk target).2, buf⟩ :
                Copy Name size) := ⟨apart, present, rfl, rfl, rfl⟩
          obtain ⟨final, ended, copied, run, moves, fresh, _, whole⟩ :=
            Traced.copyAll_moves ⟨_, [], []⟩ fuel answers start (by omega)
          refine ⟨⟨0, final.copy.disk, final.writes⟩, ?_, by simp, ?_, fresh.mpr fresh_nil⟩
          · simp only [Option.map_some, Option.filter_some, if_true, run]
          · intro _
            rw [List.drop_zero, Nat.sub_zero] at whole
            rw [← whole]
            simp only [moves.stored, Function.update_self, List.nil_append, Option.some.injEq]

end Files

/-- Healthy answers serve every file. -/
theorem serves_healthy (positive : 0 < size) (left : Nat) : Serves size (healthy size) left := by
  intro i _
  simp only [healthy, Answer.most]
  omega

/-- `mycp3` fails for the empty file, because it seeks before the beginning, and it copies any other. -/
theorem mycp3_exit {disk : Disk Name} {source target : Name} {f : List UInt8}
    (present : disk source = some f) (apart : source ≠ target) :
    ((mycp3 source target disk).1 = 0 ↔ f ≠ []) ∧
      (f ≠ [] → (mycp3 source target disk).2 target = some f) := by
  have opened : content (openWrite disk target).1 source = f := by
    simp [content, openWrite, apart, present]
  cases f with
  | nil => simp [mycp3, openRead, present, opened, File.seekSet]
  | cons byte rest =>
      let moved : File Name := ⟨target, rest.length⟩
      let extended := moved.store (openWrite disk target).1 [0]
      have seek : (openWrite disk target).2.seekSet (((byte :: rest).length : Int) - 1) =
          some moved := by
        rw [File.seekSet, List.length_cons, if_neg (by omega)]
        have offset : (((rest.length + 1 : Nat) : Int) - 1).toNat = rest.length := by omega
        rw [offset]
        rfl
      have kept : content extended.1 source = byte :: rest := by
        rw [← opened]
        simp [extended, moved, File.store, content, apart]
      have sized : (content extended.1 target).length = (byte :: rest).length := by
        have emptied : content (openWrite disk target).1 target = [] := by
          simp [content, openWrite]
        refine moved.store_length _ [0] ?_
        change (content (openWrite disk target).1 target).length ≤ _
        rw [emptied]
        exact Nat.zero_le _
      have src : mapped extended.1 source (byte :: rest).length = some (byte :: rest) := by
        have whole := mapped_whole extended.1 source
        rw [kept] at whole
        exact whole (by simp)
      have dst : mapped extended.1 target (byte :: rest).length =
          some (content extended.1 target) := by
        rw [← sized]
        refine mapped_whole extended.1 target fun nothing => ?_
        rw [nothing] at sized
        cases sized
      have run : mycp3 source target disk = (0, storeMapped extended.1 target (byte :: rest)) := by
        simp only [mycp3, openRead, present, Option.map_some, opened, seek]
        simp only [extended] at src dst
        simp only [src, dst]
        rfl
      have copied := storeMapped_whole extended.1 target _ sized
      rw [run]
      exact ⟨iff_of_true rfl (by simp), fun _ => copied⟩

/-- The three programs agree on every source except the empty one, which `mycp3` refuses. -/
theorem copies_agree_iff {Name : Type u} [DecidableEq Name] (disk : Disk Name)
    (source target : Name) (f : List UInt8) (present : disk source = some f)
    (apart : source ≠ target) (byte : Buffer 1) (block : Buffer maxBuf) (fuel : Nat)
    (enough : f.length < fuel) :
    ((∃ exit, mycp fuel (healthy 1) allOpen source target disk byte = some exit ∧
        Copied exit target f) ∧
      (∃ exit, mycp2 fuel (healthy maxBuf) allOpen source target disk block = some exit ∧
        Copied exit target f) ∧
      (mycp3 source target disk).1 = 0 ∧ (mycp3 source target disk).2 target = some f) ↔
    f ≠ [] := by
  obtain ⟨first, run1, status1, copied1, _⟩ :=
    copyFile_exit present apart (healthy 1) allOpen byte fuel enough
  obtain ⟨second, run2, status2, copied2, _⟩ :=
    copyFile_exit present apart (healthy maxBuf) allOpen block fuel enough
  have zero1 := status1.mpr ⟨rfl, rfl⟩
  have zero2 := status2.mpr ⟨rfl, rfl⟩
  obtain ⟨status3, copied3⟩ := mycp3_exit present apart
  constructor
  · intro agree
    exact status3.mp agree.2.2.1
  · intro some'
    refine ⟨⟨first, ?_, zero1, ?_⟩, ⟨second, run2, zero2, ?_⟩, status3.mpr some', copied3 some'⟩
    · rw [mycp_eq]
      exact run1
    · exact (copied1 zero1).mpr (serves_healthy (by decide) f.length)
    · exact (copied2 zero2).mpr (serves_healthy (by decide) f.length)

/-- The three programs copy one byte over an older file. -/
theorem copies_agree_single :
    let disk : Disk Bool := fun name => if name then some [4, 5] else some [1]
    (∃ exit, mycp 2 (healthy 1) allOpen false true disk (.fill 1 0) = some exit ∧
        Copied exit true [1]) ∧
      (∃ exit, mycp2 2 (healthy maxBuf) allOpen false true disk (.fill maxBuf 0) = some exit ∧
        Copied exit true [1]) ∧
      (mycp3 false true disk).1 = 0 ∧ (mycp3 false true disk).2 true = some [1] := by
  exact (copies_agree_iff _ false true [1] rfl (by decide) (.fill 1 0) (.fill maxBuf 0) 2
    (by decide)).mpr (by decide)

/-- For an empty source `mycp` and `mycp2` end with an empty copy, and `mycp3` reports an error. -/
theorem copies_disagree_empty :
    let disk : Disk Bool := fun name => if name then none else some []
    ¬ ((∃ exit, mycp 1 (healthy 1) allOpen false true disk (.fill 1 0) = some exit ∧
        Copied exit true []) ∧
      (∃ exit, mycp2 1 (healthy maxBuf) allOpen false true disk (.fill maxBuf 0) = some exit ∧
        Copied exit true []) ∧
      (mycp3 false true disk).1 = 0 ∧ (mycp3 false true disk).2 true = some []) := by
  intro disk agree
  have failed : (mycp3 false true disk).1 = 1 := by decide
  rw [failed] at agree
  exact absurd agree.2.2.1 one_ne_zero

end Mycp

/-
This file proves when `mymore` connects the standard output of its child to its standard input.
-/

import LinuxSystemProgramming.Construction.Mymore

namespace Mymore
open Descriptors

variable {File : Type} {limit : Nat} {table : Table File} {piped : Table (Object File)}
  {fd : Nat × Nat}

@[simp] theorem files_eq_none (table : Table File) (number : Nat) :
    files table number = none ↔ table number = none :=
  Option.map_eq_none_iff

/-- The descriptors of the pipe, where the first one is for reading. -/
structure Piped (limit : Nat) (table : Table File) (fd : Nat × Nat)
    (piped : Table (Object File)) : Prop where
  order : fd.1 < fd.2
  below : fd.2 < limit
  free : table fd.1 = none
  also : table fd.2 = none
  lowest : ∀ other, other < fd.2 → other ≠ fd.1 → table other ≠ none
  reading : piped fd.1 = some .reading
  writing : piped fd.2 = some .writing
  others : ∀ other, other ≠ fd.1 → other ≠ fd.2 → piped other = files table other

/-- The pipe uses closed descriptors and keeps the others. -/
theorem piped_of_pipe (made : pipe limit (files table) .reading .writing = some (fd, piped)) :
    Piped limit table fd piped := by
  obtain ⟨order, below, free, also, lowest, rfl⟩ :=
    (pipe_eq_some limit (files table) piped .reading .writing fd.1 fd.2).mp made
  refine ⟨order, below, (files_eq_none _ _).mp free, (files_eq_none _ _).mp also, ?_, ?_, ?_, ?_⟩
  · exact fun other under apart => mt (files_eq_none _ _).mpr (lowest other under apart)
  · rw [Function.update_of_ne (Nat.ne_of_lt order), Function.update_self]
  · rw [Function.update_self]
  · intro other first second
    rw [Function.update_of_ne second, Function.update_of_ne first]

/-- The parent gets its standard input if this descriptor was open. -/
theorem parent_connected (made : Piped limit table fd piped) (opened : table 0 ≠ none) :
    parent limit fd piped =
      .execlp (Function.update (close (close piped 0) fd.2) 0 (some .reading)) := by
  have input : fd.1 ≠ 0 := fun same => opened (same ▸ made.free)
  have kept : close (close piped 0) fd.2 fd.1 = some .reading := by
    rw [close_ne _ (Nat.ne_of_lt made.order), close_ne _ input, made.reading]
  have room : 0 < limit := Nat.zero_lt_of_lt made.below
  simp only [parent, dup2, kept, Option.bind_some, if_pos room]

/-- The parent exits if its standard input was closed, because this is then the end of the pipe. -/
theorem parent_unconnected (made : Piped limit table fd piped) (closed : table 0 = none) :
    parent limit fd piped = .exited := by
  have input : fd.1 = 0 := by
    by_contra other
    exact made.lowest 0 (Nat.zero_lt_of_lt made.order) (Ne.symm other) closed
  have gone : close (close piped 0) fd.2 fd.1 = none := by
    rw [close_ne _ (Nat.ne_of_lt made.order), input, close_self]
  simp only [parent, dup2, gone, Option.bind_none]

/-- The child gets its standard output if its standard input was open. -/
theorem child_connected (made : Piped limit table fd piped) (opened : table 0 ≠ none) :
    child limit fd piped =
      .execlp (Function.update (close (close piped 1) fd.1) 1 (some .writing)) := by
  have input : fd.1 ≠ 0 := fun same => opened (same ▸ made.free)
  have order := made.order
  have output : fd.2 ≠ 1 := by omega
  have kept : close (close piped 1) fd.1 fd.2 = some .writing := by
    rw [close_ne _ (Nat.ne_of_gt order), close_ne _ output, made.writing]
  have first : lowest limit (close (close piped 1) fd.1) = some 1 := by
    rw [lowest_eq_some]
    refine ⟨?_, ?_, ?_⟩
    · have below := made.below
      omega
    · by_cases same : fd.1 = 1
      · rw [same, close_self]
      · rw [close_ne _ (Ne.symm same), close_self]
    · intro other under
      obtain rfl : other = 0 := Nat.lt_one_iff.mp under
      rw [close_ne _ (Ne.symm input), close_ne _ Nat.zero_ne_one,
        made.others 0 (Ne.symm input) (by omega)]
      exact mt (files_eq_none _ _).mp opened
  simp only [child, dup, kept, Option.bind_some, allocate, first, Option.map_some]

/-- The program connects the two programs if and only if its standard input is open at the start and there is room for the pipe. -/
theorem connects_iff (limit : Nat) (table : Table File) :
    (∃ first second, main limit true table = some (.execlp first, .execlp second) ∧
      first 1 = some .writing ∧ second 0 = some .reading) ↔
      table 0 ≠ none ∧ ∃ lower upper, lower < upper ∧ upper < limit ∧
        table lower = none ∧ table upper = none := by
  constructor
  · rintro ⟨first, second, started, _, _⟩
    rw [main, Option.bind_eq_some_iff] at started
    obtain ⟨⟨fd, piped⟩, pipe, both⟩ := started
    have made := piped_of_pipe pipe
    rw [if_pos rfl, Option.some_inj, Prod.mk.injEq] at both
    refine ⟨fun closed => ?_, fd.1, fd.2, made.order, made.below, made.free, made.also⟩
    cases (parent_unconnected made closed).symm.trans both.2
  · rintro ⟨opened, lower, upper, order, below, free, also⟩
    obtain ⟨fd, piped, pipe⟩ := exists_pipe limit (files table) .reading .writing order below
      ((files_eq_none table lower).mpr free) ((files_eq_none table upper).mpr also)
    have made := piped_of_pipe pipe
    have started : main limit true table =
        some (child limit fd piped, parent limit fd piped) := by
      rw [main, pipe]
      rfl
    rw [child_connected made opened, parent_connected made opened] at started
    exact ⟨_, _, started, Function.update_self _ _ _, Function.update_self _ _ _⟩

/-- An end of the pipe is at its descriptor only. -/
theorem Piped.end_iff (made : Piped limit table fd piped) (other : Nat) :
    (piped other = some .reading ↔ other = fd.1) ∧
      (piped other = some .writing ↔ other = fd.2) := by
  have different : fd.1 ≠ fd.2 := Nat.ne_of_lt made.order
  by_cases first : other = fd.1
  · simp [first, made.reading, different]
  · by_cases second : other = fd.2
    · simp [second, made.writing, Ne.symm different]
    · simp [first, second, made.others other first second, files]

/-- If the standard input is open at the start, then only the child can write into the pipe and only the parent can read from it, and the other descriptors stay as they are. -/
theorem ends_apart {first second : Table (Object File)} (opened : table 0 ≠ none)
    (started : main limit true table = some (.execlp first, .execlp second)) (other : Nat) :
    first other ≠ some .reading ∧ second other ≠ some .writing ∧
    (table other ≠ none → (other ≠ 1 → first other = files table other) ∧
      (other ≠ 0 → second other = files table other)) := by
  rw [main, Option.bind_eq_some_iff] at started
  obtain ⟨⟨fd, piped⟩, pipe, both⟩ := started
  have made := piped_of_pipe pipe
  rw [if_pos rfl, Option.some_inj, child_connected made opened, parent_connected made opened,
    Prod.mk.injEq] at both
  obtain ⟨⟨⟩, ⟨⟩⟩ := both
  refine ⟨fun reads => ?_, fun writes => ?_, fun present => ?_⟩
  · by_cases output : other = 1
    · rw [output, Function.update_self] at reads
      cases reads
    · rw [Function.update_of_ne output, close_eq_some, close_eq_some] at reads
      exact reads.1 ((made.end_iff other).1.mp reads.2.2)
  · by_cases input : other = 0
    · rw [input, Function.update_self] at writes
      cases writes
    · rw [Function.update_of_ne input, close_eq_some, close_eq_some] at writes
      exact writes.1 ((made.end_iff other).2.mp writes.2.2)
  · have lower : other ≠ fd.1 := fun same => present (same ▸ made.free)
    have upper : other ≠ fd.2 := fun same => present (same ▸ made.also)
    have kept := made.others other lower upper
    refine ⟨fun output => ?_, fun input => ?_⟩
    · rw [Function.update_of_ne output, close_ne _ lower, close_ne _ output, kept]
    · rw [Function.update_of_ne input, close_ne _ upper, close_ne _ input, kept]

/-- The pipe stands behind the three standard descriptors. -/
theorem ends_apart_standard : ∃ first second,
    main 5 true (fun fd => if fd < 3 then some fd else none) =
      some (.execlp first, .execlp second) ∧
    first 3 ≠ some .reading ∧ second 4 ≠ some .writing := by
  have started : main 5 true (fun fd => if fd < 3 then some fd else none) =
      some (.execlp _, .execlp _) := rfl
  exact ⟨_, _, started, (ends_apart (by decide) started 3).1,
    (ends_apart (by decide) started 4).2.1⟩

end Mymore

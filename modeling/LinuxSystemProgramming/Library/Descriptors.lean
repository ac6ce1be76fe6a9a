import Mathlib.Logic.Function.Basic
import Mathlib.Data.List.Basic

namespace Descriptors

variable {File : Type*}

/-- Each descriptor of a process refers to a file or is closed. -/
abbrev Table (File : Type*) := Nat → Option File

/-- A closed descriptor may be closed again, which has no effect. -/
def close (table : Table File) (fd : Nat) : Table File := Function.update table fd none

/-- A new descriptor is the lowest closed one below the limit. -/
def lowest (limit : Nat) (table : Table File) : Option Nat :=
  (List.range limit).find? fun fd => (table fd).isNone

/-- A file gets the lowest closed descriptor. -/
def allocate (limit : Nat) (table : Table File) (file : File) : Option (Nat × Table File) :=
  (lowest limit table).map fun fd => (fd, Function.update table fd (some file))

/-- `pipe` allocates a descriptor for reading and then one for writing. -/
def pipe (limit : Nat) (table : Table File) (reading writing : File) :
    Option ((Nat × Nat) × Table File) :=
  (allocate limit table reading).bind fun first =>
    (allocate limit first.2 writing).map fun second => ((first.1, second.1), second.2)

/-- `dup` fails for a closed descriptor. -/
def dup (limit : Nat) (table : Table File) (fd : Nat) : Option (Nat × Table File) :=
  (table fd).bind (allocate limit table)

/-- `dup2` closes its second descriptor, except that it fails for a closed first one. -/
def dup2 (limit : Nat) (table : Table File) (old new : Nat) : Option (Table File) :=
  (table old).bind fun file =>
    if new < limit then some (Function.update table new (some file)) else none

@[simp] theorem close_self (table : Table File) (fd : Nat) : close table fd fd = none := by
  rw [close, Function.update_self]

@[simp] theorem close_ne (table : Table File) {fd other : Nat} (different : other ≠ fd) :
    close table fd other = table other := by
  rw [close, Function.update_of_ne different]

/-- A file that is left after a close is at another descriptor. -/
theorem close_eq_some (table : Table File) (fd other : Nat) (file : File) :
    close table fd other = some file ↔ other ≠ fd ∧ table other = some file := by
  by_cases same : other = fd
  · simp [same]
  · simp [same]

/-- The lowest descriptor is closed, and those below it are open. -/
theorem lowest_eq_some (limit : Nat) (table : Table File) (fd : Nat) :
    lowest limit table = some fd ↔
      fd < limit ∧ table fd = none ∧ ∀ other, other < fd → table other ≠ none := by
  rw [lowest, List.find?_range_eq_some, List.mem_range, and_left_comm]
  simp [Option.ne_none_iff_isSome]

/-- There is a lowest descriptor if and only if one below the limit is closed. -/
theorem exists_lowest (limit : Nat) (table : Table File) {fd : Nat} (below : fd < limit)
    (closed : table fd = none) : ∃ first, lowest limit table = some first ∧ first ≤ fd := by
  cases found : lowest limit table with
  | none =>
      rw [lowest, List.find?_range_eq_none] at found
      have opened := found fd below
      rw [closed] at opened
      cases opened
  | some first =>
      refine ⟨first, rfl, Nat.le_of_not_lt fun behind => ?_⟩
      exact ((lowest_eq_some limit table first).mp found).2.2 fd behind closed

theorem allocate_eq_some (limit : Nat) (table later : Table File) (file : File) (fd : Nat) :
    allocate limit table file = some (fd, later) ↔
      lowest limit table = some fd ∧ later = Function.update table fd (some file) := by
  rw [allocate, Option.map_eq_some_iff]
  constructor
  · rintro ⟨first, found, same⟩
    cases same
    exact ⟨found, rfl⟩
  · rintro ⟨found, rfl⟩
    exact ⟨fd, found, rfl⟩

/-- A pipe gets the two lowest closed descriptors in their order. -/
theorem pipe_eq_some (limit : Nat) (table later : Table File) (reading writing : File)
    (first second : Nat) :
    pipe limit table reading writing = some ((first, second), later) ↔
      first < second ∧ second < limit ∧ table first = none ∧ table second = none ∧
      (∀ other, other < second → other ≠ first → table other ≠ none) ∧
      later = Function.update (Function.update table first (some reading)) second
        (some writing) := by
  simp only [pipe, Option.bind_eq_some_iff, Option.map_eq_some_iff, Prod.exists,
    allocate_eq_some, lowest_eq_some, Prod.mk.injEq]
  constructor
  · rintro ⟨first, _, ⟨⟨_, closed, before⟩, rfl⟩, second, _, ⟨⟨below, also, between⟩, rfl⟩, ⟨rfl, rfl⟩, rfl⟩
    have different : second ≠ first := by
      rintro rfl
      rw [Function.update_self] at also
      cases also
    rw [Function.update_of_ne different] at also
    have opened (other : Nat) (under : other < second) (apart : other ≠ first) :
        table other ≠ none := by
      have shown := between other under
      rwa [Function.update_of_ne apart] at shown
    refine ⟨?_, below, closed, also, opened, rfl⟩
    by_contra order
    exact before second (Nat.lt_of_le_of_ne (Nat.not_lt.mp order) different) also
  · rintro ⟨order, below, closed, also, opened, rfl⟩
    refine ⟨first, _, ⟨⟨Nat.lt_trans order below, closed, ?_⟩, rfl⟩, second, _, ⟨⟨below, ?_, ?_⟩, rfl⟩,
      ⟨rfl, rfl⟩, rfl⟩
    · exact fun other under => opened other (Nat.lt_trans under order) (Nat.ne_of_lt under)
    · rwa [Function.update_of_ne (Nat.ne_of_gt order)]
    · intro other under
      by_cases same : other = first
      · rw [same, Function.update_self]
        exact nofun
      · rw [Function.update_of_ne same]
        exact opened other under same

/-- A pipe exists if two descriptors below the limit are closed. -/
theorem exists_pipe (limit : Nat) (table : Table File) (reading writing : File) {first second : Nat}
    (order : first < second) (below : second < limit) (closed : table first = none)
    (also : table second = none) :
    ∃ fd later, pipe limit table reading writing = some (fd, later) := by
  obtain ⟨lower, found, under⟩ := exists_lowest limit table (Nat.lt_trans order below)
    closed
  have remains : Function.update table lower (some reading) second = none := by
    rwa [Function.update_of_ne (Nat.ne_of_gt (Nat.lt_of_le_of_lt under order))]
  obtain ⟨upper, next, _⟩ := exists_lowest limit _ below remains
  refine ⟨(lower, upper), Function.update (Function.update table lower (some reading)) upper
    (some writing), ?_⟩
  rw [pipe, allocate, found, Option.map_some, Option.bind_some, allocate, next]
  rfl

end Descriptors

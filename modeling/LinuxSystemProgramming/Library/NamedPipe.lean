import Mathlib.Data.List.Basic

namespace NamedPipe

universe u
variable {Item : Type u}

/-- A write stores all its items at once, and it blocks while they do not fit. -/
def write (capacity : Nat) (queue items : List Item) : Option (List Item) :=
  if queue.length + items.length ≤ capacity then some (queue ++ items) else none

/-- A read returns the items that are there up to its size, and it blocks while there are none. -/
def read (size : Nat) (queue : List Item) : Option (List Item × List Item) :=
  match queue with
  | [] => none
  | _ :: _ => some (queue.take size, queue.drop size)

/-- A queue holds whole records of one size. -/
structure Framed (size : Nat) (queue : List Item) (records : List (List Item)) : Prop where
  sized : ∀ record ∈ records, record.length = size
  stream : queue = records.flatten

variable {size capacity : Nat} {queue later : List Item} {records : List (List Item)}

/-- An empty queue holds no record. -/
theorem Framed.nil (size : Nat) : Framed size ([] : List Item) [] :=
  ⟨fun _ member => (List.not_mem_nil member).elim, rfl⟩

/-- A write of a record adds the record behind the others. -/
theorem Framed.write (framed : Framed size queue records) {record : List Item}
    (sized : record.length = size) (taken : NamedPipe.write capacity queue record = some later) :
    Framed size later (records ++ [record]) := by
  simp only [NamedPipe.write, Option.ite_none_right_eq_some, Option.some.injEq] at taken
  refine ⟨?_, ?_⟩
  · intro other member
    rcases List.mem_append.mp member with before | new
    · exact framed.sized other before
    · rw [List.mem_singleton.mp new, sized]
  · rw [← taken.2, framed.stream, List.flatten_append, List.flatten_singleton]

/-- A read of the size of the records returns exactly the first record. -/
theorem Framed.read (framed : Framed size queue records) {items : List Item}
    (taken : NamedPipe.read size queue = some (items, later)) :
    ∃ rest, records = items :: rest ∧ Framed size later rest := by
  cases records with
  | nil =>
      rw [framed.stream] at taken
      cases taken
  | cons record rest =>
      have length := framed.sized record List.mem_cons_self
      have split : queue = record ++ rest.flatten := framed.stream
      have parts : items = queue.take size ∧ later = queue.drop size := by
        cases queue with
        | nil => cases taken
        | cons item tail =>
            cases taken
            exact ⟨rfl, rfl⟩
      obtain ⟨rfl, rfl⟩ := parts
      refine ⟨rest, ?_, fun other member => framed.sized other (List.mem_cons_of_mem _ member), ?_⟩
      · rw [split, ← length, List.take_left]
      · rw [split, ← length, List.drop_left]

/-- A read of the size of the only record returns it and empties the queue. -/
theorem read_record {record items : List Item} (sized : record.length = size)
    (taken : NamedPipe.read size record = some (items, later)) : items = record ∧ later = [] := by
  have framed : Framed size record [record] :=
    ⟨fun other member => by rw [List.mem_singleton.mp member, sized], by simp⟩
  obtain ⟨rest, same, tail⟩ := framed.read taken
  cases same
  exact ⟨rfl, tail.stream⟩

/-- A read blocks only when nothing is there. -/
theorem eq_nil_of_read (blocked : NamedPipe.read size queue = none) : queue = [] := by
  cases queue with
  | nil => rfl
  | cons item tail => cases blocked

/-- A read blocks only when no record is there. -/
theorem Framed.empty (framed : Framed size queue records) (positive : 0 < size)
    (blocked : NamedPipe.read size queue = none) : queue = [] ∧ records = [] := by
  have none := eq_nil_of_read blocked
  refine ⟨none, ?_⟩
  cases records with
  | nil => rfl
  | cons record rest =>
      have length := framed.sized record List.mem_cons_self
      have split := congrArg List.length framed.stream
      rw [none, List.flatten_cons, List.length_append, List.length_nil] at split
      omega

/-- A write to an empty queue does not block when the items fit. -/
theorem write_nil {items : List Item} (fits : items.length ≤ capacity) :
    write capacity [] items = some items := by
  simp [write, fits]

end NamedPipe

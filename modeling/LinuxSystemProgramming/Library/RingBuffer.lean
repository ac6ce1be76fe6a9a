import Mathlib.Data.List.Basic
import Mathlib.Logic.Function.Basic
import Mathlib.Data.Nat.ModEq

namespace RingBuffer

variable {Item : Type*}

/-- The slots from a start position hold a list of items in order and wrap at the size. -/
def Holds (size : Nat) (slots : Nat → Item) (start : Nat) (items : List Item) : Prop :=
  ∀ position (inside : position < items.length),
    slots ((start + position) % size) = items[position]

/-- Every ring holds the empty list. -/
theorem Holds.nil (size : Nat) (slots : Nat → Item) (start : Nat) :
    Holds size slots start [] := by
  intro position inside
  simp at inside

/-- Two offsets below the size name different slots. -/
theorem slot_ne (size start first second : Nat) (one : first < size) (other : second < size)
    (different : first ≠ second) : (start + first) % size ≠ (start + second) % size := by
  intro same
  have congruent : first ≡ second [MOD size] :=
    Nat.ModEq.add_left_cancel' start same
  rw [Nat.ModEq, Nat.mod_eq_of_lt one, Nat.mod_eq_of_lt other] at congruent
  exact different congruent

/-- A write to the slot after the last item appends the item. -/
theorem Holds.push {size : Nat} {slots : Nat → Item} {start : Nat} {items : List Item}
    (holds : Holds size slots start items) (room : items.length < size) (item : Item) :
    Holds size (Function.update slots ((start + items.length) % size) item) start
      (items ++ [item]) := by
  intro position inside
  simp only [List.length_append, List.length_singleton] at inside
  by_cases earlier : position < items.length
  · have different : (start + position) % size ≠ (start + items.length) % size :=
      slot_ne size start position items.length (by omega) room (by omega)
    rw [Function.update_of_ne different, List.getElem_append_left earlier]
    exact holds position earlier
  · have last : position = items.length := by omega
    subst last
    simp

/-- The start slot holds the first item. -/
theorem Holds.head {size : Nat} {slots : Nat → Item} {start : Nat} {item : Item}
    {items : List Item} (holds : Holds size slots start (item :: items)) :
    slots (start % size) = item := by
  have first := holds 0 (by simp)
  simpa only [Nat.add_zero, List.getElem_cons_zero] using first

/-- The ring after its start slot holds the remaining items. -/
theorem Holds.tail {size : Nat} {slots : Nat → Item} {start : Nat} {item : Item}
    {items : List Item} (holds : Holds size slots start (item :: items)) :
    Holds size slots ((start + 1) % size) items := by
  intro position inside
  have next := holds (position + 1) (by simpa using inside)
  rw [Nat.mod_add_mod]
  simpa only [List.getElem_cons_succ, Nat.add_assoc, Nat.add_comm 1 position] using next

/-- The start position counts only up to the size. -/
theorem holds_mod (size : Nat) (slots : Nat → Item) (start : Nat) (items : List Item) :
    Holds size slots (start % size) items ↔ Holds size slots start items := by
  simp only [Holds, Nat.mod_add_mod]

/-- A slot is occupied when it is one of a number of slots from a start position. -/
def Occupied (size start count slot : Nat) : Prop :=
  ∃ position, position < count ∧ slot = (start + position) % size

/-- No slot is occupied by no items. -/
theorem not_occupied_zero (size start slot : Nat) : ¬ Occupied size start 0 slot := by
  rintro ⟨position, inside, _⟩
  omega

/-- The slot after the last occupied one is free while there is room. -/
theorem not_occupied_last (size start count : Nat) (room : count < size) :
    ¬ Occupied size start count ((start + count) % size) := by
  rintro ⟨position, inside, same⟩
  exact slot_ne size start count position room (by omega) (by omega) same

/-- One more item occupies the slot after the last one. -/
theorem occupied_push (size start count slot : Nat) :
    Occupied size start (count + 1) slot ↔
      slot = (start + count) % size ∨ Occupied size start count slot := by
  constructor
  · rintro ⟨position, inside, rfl⟩
    by_cases last : position = count
    · exact Or.inl (by rw [last])
    · exact Or.inr ⟨position, by omega, rfl⟩
  · rintro (rfl | ⟨position, inside, rfl⟩)
    · exact ⟨count, by omega, rfl⟩
    · exact ⟨position, by omega, rfl⟩

/-- The ring after its start slot occupies all slots but the start slot. -/
theorem occupied_pop (size start count slot : Nat) (room : count < size) :
    Occupied size ((start + 1) % size) count slot ↔
      Occupied size start (count + 1) slot ∧ slot ≠ start % size := by
  constructor
  · rintro ⟨position, inside, rfl⟩
    rw [Nat.mod_add_mod, Nat.add_assoc]
    refine ⟨⟨1 + position, by omega, rfl⟩, ?_⟩
    exact slot_ne size start (1 + position) 0 (by omega) (by omega) (by omega)
  · rintro ⟨⟨position, inside, rfl⟩, different⟩
    have later : position ≠ 0 := fun first => different (by rw [first, Nat.add_zero])
    refine ⟨position - 1, by omega, ?_⟩
    rw [Nat.mod_add_mod]
    congr 1
    omega

end RingBuffer

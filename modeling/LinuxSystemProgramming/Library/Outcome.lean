import LinuxSystemProgramming.Library.Stdio
import Mathlib.Algebra.BigOperators.Group.Finset.Basic

namespace Stdio
open CString

universe u

/-- A call fails, or it moves at most a number of bytes. -/
inductive Answer where
  | failed
  | moved (count : Nat)
  deriving DecidableEq

/-- A failed call moves no bytes. -/
def Answer.most : Answer → Nat
  | .failed => 0
  | .moved count => count

/-- A traced copy remembers the bytes of its last read, and for each write these and its own bytes. -/
structure Traced (Name : Type u) (size : Nat) where
  copy : Copy Name size
  last : List UInt8
  writes : List (List UInt8 × List UInt8)

/-- A program ends with its status, the disk, and the trace of its writes. -/
structure Exit (Name : Type u) where
  status : Nat
  disk : Disk Name
  writes : List (List UInt8 × List UInt8)

variable {Name : Type u} [DecidableEq Name] {size : Nat}

/-- A read moves at most as many bytes as its answer. -/
def Traced.fread (traced : Traced Name size) (count : Nat) (fits : count ≤ size)
    (answer : Answer) : Nat × Traced Name size :=
  let moved := traced.copy.fread (min count answer.most) ((Nat.min_le_left ..).trans fits)
  (moved.1, { traced with
    copy := moved.2
    last := traced.copy.ahead (min count answer.most) })

/-- The system call returns -1 when it fails. -/
def Traced.read (traced : Traced Name size) (count : Nat) (fits : count ≤ size)
    (answer : Answer) : Int × Traced Name size :=
  let moved := traced.fread count fits answer
  (if answer = .failed then -1 else moved.1, moved.2)

/-- The answer of a write is the number of its bytes that reach the file. -/
def Traced.fwrite (traced : Traced Name size) (count : Nat) (answer : Answer) :
    Traced Name size :=
  { traced with
    copy := traced.copy.fwrite (min count answer.most)
    writes := traced.writes ++
      [(traced.last, traced.copy.buf.bytes.take (min count answer.most))] }

/-- The loop reads a buffer and writes what was read until nothing is read. -/
def Traced.copyAll : Nat → (Nat → Answer × Answer) → Traced Name size →
    Option (Traced Name size)
  | 0, _, _ => none
  | fuel + 1, answers, traced =>
      let moved := traced.fread size le_rfl (answers 0).1
      if 0 < moved.1 then
        copyAll fuel (fun i => answers (i + 1)) (moved.2.fwrite moved.1 (answers 0).2)
      else some moved.2

/-- Each write stores only bytes that were just read. -/
def Fresh (writes : List (List UInt8 × List UInt8)) : Prop := ∀ write ∈ writes, write.2 <+: write.1

/-- A program that reports success has written its results, and it writes only what it just read. -/
def Exit.Honest (exit : Exit Name) (results : List (Name × List UInt8)) : Prop :=
  (exit.status = 0 → ∀ result ∈ results, exit.disk result.1 = some result.2) ∧ Fresh exit.writes

/-- The first reads move at most these bytes together. -/
def delivered (size : Nat) (answers : Nat → Answer × Answer) (reads : Nat) : Nat :=
  ∑ i ∈ Finset.range reads, min size (answers i).1.most

/-- While bytes are left, each read moves some bytes, and its write stores all of them. -/
def Serves (size : Nat) (answers : Nat → Answer × Answer) (left : Nat) : Prop :=
  ∀ i, delivered size answers i < left →
    0 < min size (answers i).1.most ∧
      min (min size (answers i).1.most) (left - delivered size answers i) ≤ (answers i).2.most

@[simp] theorem fresh_nil : Fresh [] := by simp [Fresh]

/-- One more write is fresh if its bytes begin the read bytes. -/
theorem fresh_append (writes : List (List UInt8 × List UInt8)) (read stored : List UInt8) :
    Fresh (writes ++ [(read, stored)]) ↔ Fresh writes ∧ stored <+: read := by
  simp only [Fresh, List.forall_mem_append, List.forall_mem_singleton]

/-- The first read delivers its bytes before the later reads. -/
theorem delivered_succ (size : Nat) (answers : Nat → Answer × Answer) (reads : Nat) :
    delivered size answers (reads + 1) =
      delivered size (fun i => answers (i + 1)) reads + min size (answers 0).1.most := by
  rw [delivered, Finset.sum_range_succ', delivered]

/-- Nothing has to be served when nothing is left. -/
theorem serves_zero (size : Nat) (answers : Nat → Answer × Answer) : Serves size answers 0 := by
  intro i below
  exact absurd below (Nat.not_lt_zero _)

/-- The first answers serve the first bytes, and the others serve the rest. -/
theorem serves_step (size : Nat) (answers : Nat → Answer × Answer) (left : Nat)
    (more : 0 < left) :
    Serves size answers left ↔
      0 < min size (answers 0).1.most ∧
        min (min size (answers 0).1.most) left ≤ (answers 0).2.most ∧
        Serves size (fun i => answers (i + 1)) (left - min (min size (answers 0).1.most) left) := by
  have first : delivered size answers 0 = 0 := by simp [delivered]
  constructor
  · intro serves
    obtain ⟨some', stored⟩ := serves 0 (by omega)
    rw [first, Nat.sub_zero] at stored
    refine ⟨some', stored, ?_⟩
    intro i below
    have sum := delivered_succ size answers i
    obtain ⟨positive, whole⟩ := serves (i + 1) (by omega)
    refine ⟨positive, ?_⟩
    change min (min size (answers (i + 1)).1.most) _ ≤ (answers (i + 1)).2.most
    omega
  · rintro ⟨some', stored, later⟩ i below
    cases i with
    | zero =>
        rw [first, Nat.sub_zero]
        exact ⟨some', stored⟩
    | succ i =>
        have sum := delivered_succ size answers i
        obtain ⟨positive, whole⟩ := later i (by omega)
        refine ⟨positive, ?_⟩
        change min (min size (answers (i + 1)).1.most) _ ≤ (answers (i + 1)).2.most at whole
        omega

/-- Short pieces make up some bytes only if each piece is whole. -/
theorem append_eq_iff_whole {bytes first rest : List UInt8} {count : Nat}
    (inside : count ≤ bytes.length) (short : first.length ≤ count)
    (bound : rest.length ≤ bytes.length - count) :
    first ++ rest = bytes ↔ first = bytes.take count ∧ rest = bytes.drop count := by
  constructor
  · intro whole
    have sum : first.length + rest.length = bytes.length := by
      rw [← List.length_append, whole]
    have full : first.length = count := by omega
    rw [← whole, ← full, List.take_left, List.drop_left]
    exact ⟨rfl, rfl⟩
  · intro pieces
    rw [pieces.1, pieces.2, List.take_append_drop]

/-- Short pieces make up the first bytes only if each piece is whole. -/
theorem append_eq_take_iff {bytes first rest : List UInt8} {count total : Nat}
    (within : count ≤ total) (inside : total ≤ bytes.length) (short : first.length ≤ count)
    (bound : rest.length ≤ total - count) :
    first ++ rest = bytes.take total ↔
      first = bytes.take count ∧ rest = (bytes.drop count).take (total - count) := by
  have size : (bytes.take total).length = total := List.length_take_of_le inside
  rw [append_eq_iff_whole (by omega : count ≤ (bytes.take total).length) short (by omega),
    List.take_take, Nat.min_eq_left within, List.drop_take]

/-- The first bytes of a piece are the piece if they are as many. -/
theorem take_min_eq_iff {bytes : List UInt8} {count limit : Nat} (inside : count ≤ bytes.length) :
    bytes.take (min count limit) = bytes.take count ↔ count ≤ limit := by
  constructor
  · intro same
    have lengths := congrArg List.length same
    rw [List.length_take, List.length_take] at lengths
    omega
  · intro enough
    rw [Nat.min_eq_left enough]

section Rounds
variable {disk : Disk Name} {source target : Name} {input output : List UInt8} {position : Nat}

/-- A read finds the next bytes, and they begin the buffer. -/
theorem Traced.fread_moves (traced : Traced Name size) (count : Nat) (fits : count ≤ size)
    (answer : Answer)
    (moves : Moves disk source target input output position traced.copy) :
    let found := (input.drop position).take (min count answer.most)
    let moved := traced.fread count fits answer
    moved.1 = found.length ∧
      Moves disk source target input output (position + found.length) moved.2.copy ∧
      found <+: moved.2.copy.buf.bytes ∧ moved.2.last = found ∧
      moved.2.writes = traced.writes := by
  have ahead := moves.ahead (min count answer.most)
  obtain ⟨moved, starts⟩ := moves.fread (min count answer.most)
    ((Nat.min_le_left ..).trans fits)
  exact ⟨congrArg List.length ahead, moved, starts, ahead, rfl⟩

/-- A round writes the first bytes of those that it read. -/
theorem Traced.round_moves (traced : Traced Name size) (count : Nat) (fits : count ≤ size)
    (reply store : Answer)
    (moves : Moves disk source target input output position traced.copy) :
    let read := ((input.drop position).take (min count reply.most)).length
    let stored := (input.drop position).take (min read store.most)
    let later := (traced.fread count fits reply).2.fwrite read store
    Moves disk source target input (output ++ stored) (position + read) later.copy ∧
      (Fresh later.writes ↔ Fresh traced.writes) := by
  intro read stored later
  obtain ⟨_, moved, ⟨rest, split⟩, last, writes⟩ := traced.fread_moves count fits reply moves
  have capped : min read store.most ≤ min count reply.most :=
    (Nat.min_le_left ..).trans (List.length_take_le ..)
  have kept : (traced.fread count fits reply).2.copy.buf.bytes.take (min read store.most) =
      stored := by
    rw [← split, List.take_append_of_le_length (Nat.min_le_left ..), List.take_take,
      Nat.min_eq_left capped]
  constructor
  · have written := moved.fwrite (min read store.most)
    rw [kept] at written
    exact written
  · simp only [later, Traced.fwrite]
    rw [fresh_append, kept, last, writes]
    exact and_iff_left (List.take_prefix_take_left capped)

/-- The loop ends, it writes only fresh bytes, and it copies the rest if and only if the answers serve it. -/
theorem Traced.copyAll_moves (traced : Traced Name size) (fuel : Nat)
    (answers : Nat → Answer × Answer)
    (moves : Moves disk source target input output position traced.copy)
    (enough : input.length - position < fuel) :
    ∃ final ended copied, traced.copyAll fuel answers = some final ∧
      Moves disk source target input (output ++ copied) ended final.copy ∧
      (Fresh final.writes ↔ Fresh traced.writes) ∧ copied.length ≤ input.length - position ∧
      (copied = input.drop position ↔ Serves size answers (input.length - position)) := by
  induction fuel generalizing answers output position traced with
  | zero => omega
  | succ fuel ih =>
      obtain ⟨count, moved, _, _, writes⟩ :=
        traced.fread_moves size le_rfl (answers 0).1 moves
      have found : ((input.drop position).take (min size (answers 0).1.most)).length =
          min (min size (answers 0).1.most) (input.length - position) := by
        rw [List.length_take, List.length_drop]
      rw [Traced.copyAll]
      by_cases some' : 0 < (traced.fread size le_rfl (answers 0).1).1
      · have round := traced.round_moves size le_rfl (answers 0).1 (answers 0).2 moves
        rw [if_pos some', count]
        rw [count, found] at some'
        rw [found] at round ⊢
        obtain ⟨final, ended, later, ends, rest, fresh, bound, all⟩ :=
          ih _ (fun i => answers (i + 1)) round.1 (by omega)
        refine ⟨final, ended, _, ends, by rw [← List.append_assoc]; exact rest,
          fresh.trans round.2, ?_, ?_⟩
        · rw [List.length_append, List.length_take, List.length_drop]
          omega
        · have inside : min (min size (answers 0).1.most) (input.length - position) ≤
              (input.drop position).length := by
            rw [List.length_drop]
            omega
          rw [serves_step size answers _ (by omega),
            append_eq_iff_whole inside (by rw [List.length_take]; omega)
              (by rw [List.length_drop]; omega),
            take_min_eq_iff inside, List.drop_drop, all, Nat.sub_sub]
          exact (and_iff_right (by omega)).symm
      · rw [if_neg some']
        rw [count, found] at some'
        refine ⟨_, _, [], rfl, by rw [List.append_nil]; exact moved, by rw [writes],
          Nat.zero_le _, ?_⟩
        constructor
        · intro nothing
          have none : input.length - position = 0 := by
            rw [← List.length_drop, ← nothing, List.length_nil]
          rw [none]
          exact serves_zero size answers
        · intro serves
          symm
          apply List.drop_eq_nil_of_le
          by_contra more
          have first := ((serves_step size answers _ (by omega)).mp serves).1
          omega

end Rounds

end Stdio

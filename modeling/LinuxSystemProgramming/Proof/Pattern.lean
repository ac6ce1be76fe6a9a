import LinuxSystemProgramming.Construction.Pattern

namespace Pattern
open CString

section Windows
variable {file old : List UInt8} {len : Nat}

/-- A window fills the buffer. -/
theorem length_window (sized : old.length = len) (offset : Nat) :
    (window len file old offset).length = len := by
  simp only [window, List.length_take, List.length_append, List.length_drop,
    List.length_replicate]
  omega

/-- The first read gives the first window. -/
theorem window_zero (sized : old.length = len) :
    file.take len ++ old.drop (file.take len).length = window len file old 0 := by
  rw [window, List.drop_zero, List.replicate_zero, List.append_nil, List.take_append,
    List.length_take]
  congr 1
  rcases Nat.le_total len file.length with long | short
  · rw [Nat.min_eq_left long, Nat.sub_eq_zero_of_le long, List.take_zero]
    exact List.drop_eq_nil_of_le (Nat.le_of_eq sized)
  · rw [Nat.min_eq_right short, List.take_of_length_le]
    rw [List.length_drop, sized]

/-- The bytes of a window behind the later ones are the last byte and the older ones. -/
theorem drop_window (offset : Nat) (inside : offset < file.length) :
    (window len file old offset).drop (file.length - (offset + 1)) =
      (List.replicate (offset + 1) (file.getLastD 0) ++ old.drop file.length).take
        (len - (file.length - (offset + 1))) := by
  have some' : file ≠ [] := by
    rintro rfl
    cases inside
  have last : file.drop (file.length - 1) = [file.getLastD 0] := by
    rw [List.drop_length_sub_one some', List.getLastD_eq_getLast?, List.getLast?_eq_some_getLast some',
      Option.getD_some]
  have place : offset + (file.length - (offset + 1)) = file.length - 1 := by omega
  have bound : file.length - (offset + 1) ≤ (file.drop offset).length := by
    rw [List.length_drop]
    omega
  rw [window, List.drop_take, List.append_assoc, List.drop_append_of_le_length bound,
    List.drop_drop, place, last, List.replicate_succ, List.cons_append]
  rfl

/-- A read at the next offset moves the window. -/
theorem window_succ (sized : old.length = len) (offset : Nat) (inside : offset + 1 < file.length) :
    (file.drop (offset + 1)).take len ++
        (window len file old offset).drop ((file.drop (offset + 1)).take len).length =
      window len file old (offset + 1) := by
  conv_rhs => rw [window, List.append_assoc, List.take_append]
  congr 1
  rw [List.length_take, List.length_drop]
  rcases Nat.le_total len (file.length - (offset + 1)) with long | short
  · rw [Nat.min_eq_left long, Nat.sub_eq_zero_of_le long, List.take_zero]
    exact List.drop_eq_nil_of_le (Nat.le_of_eq (length_window sized offset))
  · rw [Nat.min_eq_right short, drop_window offset (by omega)]

end Windows

section Loop
variable (word : Word) (file old : List UInt8) (beyond : Nat → List UInt8)

/-- The word is found from a window on, in the memory of some iteration. -/
def sees (iteration offset : Nat) : Bool :=
  strstr word (window word.len file old offset ++ beyond iteration)

/-- The window at an offset is read in the next iteration. -/
def finds (offset : Nat) : Bool := sees word file old beyond (offset + 1) offset

/-- A word has a byte. -/
theorem Word.len_pos (word : Word) : 0 < word.len := List.length_pos_iff.mpr word.some

/-- From an offset on, the loop adds the later windows in which the word is found. -/
theorem loop_from (sized : old.length = word.len) (left offset fuel result : Nat)
    (buf : Buffer word.len) (rest : file.length = offset + left) (enough : left < fuel)
    (small : result ≤ 2147483647)
    (reads : offset < file.length → (buf.write ((file.drop offset).take word.len)
      (List.length_take_le ..)).bytes = window word.len file old offset) :
    let total := result + (List.range' offset left).countP (finds word file old beyond)
    loop word file beyond fuel ⟨offset, offset + 1, result, buf⟩ =
      if total ≤ 2147483647 then some total else none := by
  induction left generalizing offset fuel result buf with
  | zero =>
      cases fuel with
      | zero => omega
      | succ fuel =>
          have ended : file.drop offset = [] := List.drop_eq_nil_of_le (by omega)
          simp [loop, Scan.fread, ended, small]
  | succ left ih =>
      cases fuel with
      | zero => omega
      | succ fuel =>
          have positive := word.len_pos
          have read : ((file.drop offset).take word.len).length ≠ 0 := by
            rw [List.length_take, List.length_drop]
            omega
          have here := reads (by omega)
          have next (later : Nat) (bound : later ≤ 2147483647) :=
            ih (offset + 1) fuel later
              (buf.write ((file.drop offset).take word.len) (List.length_take_le ..))
              (by omega) (by omega) bound fun inside => by
                change _ ++ (buf.write _ _).bytes.drop _ = _
                rw [here]
                exact window_succ sized offset inside
          intro total
          rw [loop]
          simp only [Scan.fread, if_neg read, Scan.seek, here]
          have found : strstr word (window word.len file old offset ++ beyond (offset + 1)) =
              finds word file old beyond offset := rfl
          rw [found]
          simp only [total, List.range'_succ]
          cases seen : finds word file old beyond offset with
          | false =>
              rw [List.countP_cons_of_neg (by simp [seen])]
              exact next result small
          | true =>
              rw [List.countP_cons_of_pos seen]
              by_cases room : result < 2147483647
              · have later := next (result + 1) room
                simp only [increment, if_pos room, Option.bind_some, if_true]
                rw [later, Nat.add_right_comm, ← Nat.add_assoc]
              · simp only [increment, if_neg room, Option.bind_none, if_true]
                rw [if_neg (by omega)]

/-- The program adds the first window, which it reads twice, to the windows at all offsets. -/
theorem pattern_eq (buf : Buffer word.len) (fuel : Nat) (enough : file.length + 1 < fuel) :
    let first := if file ≠ [] ∧ sees word file buf.bytes beyond 0 0 = true then 1 else 0
    let total := first + (List.range file.length).countP (finds word file buf.bytes beyond)
    pattern fuel word file beyond buf = if total ≤ 2147483647 then some total else none := by
  cases fuel with
  | zero => omega
  | succ fuel =>
      rw [pattern, loop]
      by_cases empty : file = []
      · subst empty
        simp [Scan.fread]
      · have some' : 0 < file.length := List.length_pos_iff.mpr empty
        have positive := word.len_pos
        have read : ((file.drop 0).take word.len).length ≠ 0 := by
          rw [List.length_take, List.length_drop]
          omega
        have first' : file.take word.len ++ buf.bytes.drop (file.take word.len).length =
            window word.len file buf.bytes 0 := window_zero buf.sized
        have later (result : Nat) (small : result ≤ 2147483647) :=
          loop_from word file buf.bytes beyond buf.sized file.length 0 fuel result
            (buf.write ((file.drop 0).take word.len) (List.length_take_le ..)) (by omega)
            (by omega) small fun _ => by
              change _ ++ (_ ++ buf.bytes.drop _).drop _ = _
              rw [List.drop_left]
              exact first'
        have found : strstr word ((buf.write ((file.drop 0).take word.len)
            (List.length_take_le ..)).bytes ++ beyond 0) = sees word file buf.bytes beyond 0 0 := by
          rw [sees, ← first']
          rfl
        simp only [Scan.fread, if_neg read, Scan.seek, found]
        rw [List.range_eq_range']
        cases seen : sees word file buf.bytes beyond 0 0 with
        | false =>
            have rest := later 0 (by omega)
            simp only [Bool.false_eq_true, and_false, if_false]
            exact rest
        | true =>
            have rest := later 1 (by omega)
            simp only [increment, Nat.zero_lt_succ, if_true, Option.bind_some, ne_eq, empty,
              not_false_eq_true, and_self]
            exact rest

/-- A predicate that follows from another counts as often only where it is the same. -/
theorem countP_eq_iff {α : Type} (weak strong : α → Bool) (items : List α)
    (follows : ∀ item ∈ items, strong item = true → weak item = true) :
    items.countP weak = items.countP strong ↔
      ∀ item ∈ items, weak item = true → strong item = true := by
  induction items with
  | nil => simp
  | cons item rest ih =>
      have tail := ih fun other member => follows other (List.mem_cons_of_mem _ member)
      have fewer : rest.countP strong ≤ rest.countP weak :=
        List.countP_mono_left fun other member =>
          follows other (List.mem_cons_of_mem _ member)
      have head := follows item List.mem_cons_self
      rw [List.countP_cons, List.countP_cons, List.forall_mem_cons, ← tail]
      cases strongly : strong item with
      | true => simp [head strongly]
      | false =>
          cases weakly : weak item with
          | false => simp
          | true =>
              have more : rest.countP weak + 1 ≠ rest.countP strong + 0 := by omega
              simpa using more

/-- An occurrence is found in its window. -/
theorem finds_of_occurs (offset : Nat) (here : occurs word file offset = true) :
    finds word file old beyond offset = true := by
  have whole := of_decide_eq_true here
  have full : word.len ≤ (file.drop offset).length := by
    have length := congrArg List.length whole
    rw [List.length_take] at length
    change _ = word.len at length
    omega
  have begins : window word.len file old offset = word.bytes := by
    rw [window, List.append_assoc, List.take_append_of_le_length full, whole]
  rw [finds, sees, strstr, begins, text_append, if_neg word.clean]
  exact decide_eq_true (List.prefix_append ..).isInfix

end Loop

/-- The program counts the occurrences if and only if the first window does not show the word and each other window shows only its own. -/
theorem count_iff (word : Word) (file : List UInt8) (beyond : Nat → List UInt8)
    (buf : Buffer word.len) (fuel : Nat) (enough : file.length + 1 < fuel) :
    pattern fuel word file beyond buf = some (occurrences word file) ↔
      occurrences word file ≤ 2147483647 ∧ (file = [] ∨
        (sees word file buf.bytes beyond 0 0 = false ∧
          ∀ offset < file.length, finds word file buf.bytes beyond offset = true →
            occurs word file offset = true)) := by
  rw [pattern_eq word file beyond buf fuel enough]
  have equal := countP_eq_iff (finds word file buf.bytes beyond) (occurs word file)
    (List.range file.length) fun offset _ => finds_of_occurs word file buf.bytes beyond offset
  have fewer : occurrences word file ≤
      (List.range file.length).countP (finds word file buf.bytes beyond) :=
    List.countP_mono_left fun offset _ => finds_of_occurs word file buf.bytes beyond offset
  simp only [List.mem_range] at equal
  rw [← equal, Option.ite_none_right_eq_some, Option.some.injEq]
  change _ ↔ _ ∧ (_ ∨ _ ∧ _ = occurrences word file)
  by_cases empty : file = []
  · subst empty
    simp [occurrences]
  · cases seen : sees word file buf.bytes beyond 0 0 with
    | true =>
        simp only [empty, ne_eq, not_false_eq_true, and_self, if_true, Bool.true_eq_false,
          false_and, or_self, and_false, iff_false]
        omega
    | false =>
        simp only [empty, Bool.false_eq_true, and_false, if_false, false_or, true_and]
        omega

/-- The word `ab` is counted in the file `b`, whose window runs into the memory beyond the buffer without showing it. -/
theorem count_iff_single :
    let word : Word := ⟨[97, 98], by decide, by decide⟩
    pattern 3 word [98] (fun _ => [0]) ⟨[0, 0], rfl⟩ = some (occurrences word [98]) ↔
      occurrences word [98] ≤ 2147483647 ∧ ([(98 : UInt8)] = [] ∨
        (sees word [98] [0, 0] (fun _ => [0]) 0 0 = false ∧
          ∀ offset < 1, finds word [98] [0, 0] (fun _ => [0]) offset = true →
            occurs word [98] offset = true)) :=
  count_iff ⟨[97, 98], by decide, by decide⟩ [98] (fun _ => [0]) ⟨[0, 0], rfl⟩ 3 (by decide)

/-- The word `ab` is found twice in the file `ab`, where it stands once. -/
theorem counts_twice :
    let word : Word := ⟨[97, 98], by decide, by decide⟩
    pattern 4 word [97, 98] (fun _ => [0]) ⟨[0, 0], rfl⟩ = some 2 ∧
      occurrences word [97, 98] = 1 := by
  decide

end Pattern

import LinuxSystemProgramming.Construction.Del

namespace Del
open Transition CString

/-- A character that is stored in front of a gap closes the gap at its place in the rest. -/
theorem set_fill (front gap rest : List UInt8) (byte : UInt8) :
    (front ++ gap ++ byte :: rest).set front.length byte =
      front ++ [byte] ++ (gap ++ [byte]).tail ++ rest := by
  rw [List.append_assoc, List.set_append_right _ _ le_rfl, Nat.sub_self]
  cases gap with
  | nil => simp
  | cons first others => simp

/-- The characters of a string that stay. -/
def kept (c : UInt8) (s : List UInt8) : List UInt8 := s.filter fun byte => byte ≠ c

/-- The memory has the characters that stay, a gap, and the characters that were not read. -/
structure Split (before after : List UInt8) (c : UInt8) (past gap unread : List UInt8)
    (scan : Scan) : Prop where
  memory : scan.memory = before ++ kept c past ++ gap ++ unread ++ 0 :: after
  dst : scan.dst = (before ++ kept c past).length
  str : scan.str = (before ++ kept c past ++ gap).length
  length : (kept c past).length + gap.length = past.length

section Loop
variable {before after past gap unread : List UInt8} {c byte : UInt8} {scan : Scan}

theorem split_start (s : List UInt8) :
    Split before after c [] [] s ⟨before ++ s ++ 0 :: after, before.length, before.length⟩ := by
  constructor
  all_goals simp [kept]

/-- The loop reads the characters of the string and then its terminator. -/
theorem Split.next (split : Split before after c past gap unread scan) :
    scan.memory[scan.str]? = (unread ++ 0 :: after)[0]? := by
  rw [split.memory, split.str, List.append_assoc _ unread, List.getElem?_append_right le_rfl,
    Nat.sub_self]

/-- An iteration stores a character in the first place of the gap, or it makes the gap longer. -/
theorem Split.advance (split : Split before after c past gap (byte :: unread) scan) :
    ∃ wider, Split before after c (past ++ [byte]) wider unread (scan.advance c byte) := by
  have memory := split.memory
  have str := split.str
  have length := split.length
  by_cases stays : byte ≠ c
  · have longer : kept c (past ++ [byte]) = kept c past ++ [byte] := by simp [kept, stays]
    refine ⟨(gap ++ [byte]).tail, ?_⟩
    rw [Scan.advance, if_pos stays]
    constructor
    · rw [longer, memory, split.dst, List.append_assoc (before ++ kept c past ++ gap)]
      simpa using set_fill (before ++ kept c past) gap (unread ++ 0 :: after) byte
    · simp [longer, split.dst, Nat.add_assoc]
    · simp only [longer, str, List.length_append, List.length_tail, List.length_singleton]
      omega
    · simp only [longer, List.length_append, List.length_tail, List.length_singleton]
      omega
  · have same : kept c (past ++ [byte]) = kept c past := by
      rw [not_not] at stays
      simp [kept, stays]
    refine ⟨gap ++ [byte], ?_⟩
    rw [Scan.advance, if_neg stays]
    constructor
    · rw [same, memory]
      simp
    · rw [same, split.dst]
    · simp only [same, str, List.length_append, List.length_singleton]
      omega
    · simp only [same, List.length_append, List.length_singleton]
      omega

/-- The terminator is stored behind the characters that stay. -/
theorem Split.terminate (split : Split before after c past gap [] scan) :
    scan.memory.set scan.dst 0 =
      before ++ kept c past ++ [0] ++ (gap ++ [0]).tail ++ after := by
  rw [split.memory, split.dst, List.append_nil]
  exact set_fill (before ++ kept c past) gap after 0

/-- From each split on, the loop ends with the characters that stay, by induction on the unread ones. -/
theorem loop_split (split : Split before after c past gap unread scan) (clean : 0 ∉ unread)
    (fuel : Nat) (enough : unread.length < fuel) :
    ∃ wider, (kept c (past ++ unread)).length + wider.length = (past ++ unread).length ∧
      loop c fuel scan = some (before ++ kept c (past ++ unread) ++ 0 :: wider ++ after) := by
  induction unread generalizing past gap scan fuel with
  | nil =>
      cases fuel with
      | zero => cases enough
      | succ fuel =>
          refine ⟨(gap ++ [0]).tail, ?_, ?_⟩
          · simpa using split.length
          · rw [loop, split.next]
            simpa using split.terminate
  | cons byte rest inductionHypothesis =>
      cases fuel with
      | zero => cases enough
      | succ fuel =>
          rw [List.mem_cons, not_or] at clean
          rw [List.length_cons] at enough
          obtain ⟨wider, later⟩ := split.advance
          have ends := inductionHypothesis later clean.2 fuel (by omega)
          rw [List.append_cons, loop, split.next]
          simpa [Ne.symm clean.1] using ends

end Loop

/-- In front of each test the memory is split at the two pointers. -/
theorem reachable_split {before s after : List UInt8} {c : UInt8} {scan : Scan} (clean : 0 ∉ s)
    (reached : (system (before ++ s ++ 0 :: after) before.length c).Reachable scan) :
    ∃ past gap unread, past ++ unread = s ∧ Split before after c past gap unread scan := by
  induction reached with
  | initial start =>
      cases start
      exact ⟨[], [], s, rfl, split_start s⟩
  | step label _ taken inductionHypothesis =>
      obtain ⟨past, gap, unread, whole, split⟩ := inductionHypothesis
      simp only [system, split.next] at taken
      cases unread with
      | nil => simp at taken
      | cons byte rest =>
          have character : byte ≠ 0 := by
            intro zero
            apply clean
            rw [← whole, zero]
            simp
          simp only [List.cons_append, List.getElem?_cons_zero, if_neg character,
            Option.some.injEq] at taken
          obtain ⟨wider, later⟩ := split.advance
          exact ⟨past ++ [byte], wider, rest, by simpa using whole, taken ▸ later⟩

section String
variable (before s after : List UInt8) (c : UInt8) (clean : 0 ∉ s)
include clean

/-- `del` leaves the characters that stay, their terminator, and everything behind the old terminator. -/
theorem del_eq (fuel : Nat) (enough : s.length < fuel) :
    ∃ wider, (kept c s).length + wider.length = s.length ∧
      del fuel (before ++ s ++ 0 :: after) before.length c =
        some (before ++ kept c s ++ 0 :: wider ++ after) :=
  loop_split (split_start s) clean fuel enough

omit clean in
theorem zero_not_mem_kept (absent : 0 ∉ s) : 0 ∉ kept c s := by
  intro member
  exact absent (List.mem_of_mem_filter member)

theorem string_eq : string (before ++ s ++ 0 :: after) before.length = s := by
  rw [string, List.append_assoc, List.drop_left]
  exact text_terminated s after clean

/-- After two calls the characters that stay are those that stay in both. -/
theorem del_del (d : UInt8) (fuel : Nat) (enough : s.length < fuel) :
    (((del fuel (before ++ s ++ 0 :: after) before.length c).bind fun memory =>
        del fuel memory before.length d).map fun memory => string memory before.length) =
      some (kept d (kept c s)) := by
  obtain ⟨wider, length, first⟩ := del_eq before s after c clean fuel enough
  have stay := zero_not_mem_kept s c clean
  obtain ⟨widest, _, second⟩ :=
    del_eq before (kept c s) (wider ++ after) d stay fuel (by omega)
  rw [first, Option.bind_some, List.append_assoc, List.cons_append, second, Option.map_some,
    List.append_assoc, List.cons_append]
  exact congrArg some (string_eq before _ _ (zero_not_mem_kept _ d stay))

end String

/-- `del` filters the string in place: it writes no further than it has read, a second call changes nothing, and two calls commute. -/
theorem del_filters (before s after : List UInt8) (c : UInt8) (clean : 0 ∉ s) :
    (∀ scan, (system (before ++ s ++ 0 :: after) before.length c).Reachable scan →
      scan.dst ≤ scan.str ∧ scan.str ≤ before.length + s.length ∧
        scan.memory.drop scan.str = (before ++ s ++ 0 :: after).drop scan.str) ∧
    ∀ fuel > s.length,
      (∃ wider, (kept c s).length + wider.length = s.length ∧
        del fuel (before ++ s ++ 0 :: after) before.length c =
          some (before ++ kept c s ++ 0 :: wider ++ after)) ∧
      ((del fuel (before ++ s ++ 0 :: after) before.length c).bind fun memory =>
          del fuel memory before.length c).map (fun memory => string memory before.length) =
        (del fuel (before ++ s ++ 0 :: after) before.length c).map
          (fun memory => string memory before.length) ∧
      ∀ d, ((del fuel (before ++ s ++ 0 :: after) before.length c).bind fun memory =>
          del fuel memory before.length d).map (fun memory => string memory before.length) =
        ((del fuel (before ++ s ++ 0 :: after) before.length d).bind fun memory =>
          del fuel memory before.length c).map (fun memory => string memory before.length) := by
  constructor
  · intro scan reached
    obtain ⟨past, gap, unread, rfl, split⟩ := reachable_split clean reached
    have str := split.str
    have dst := split.dst
    have length := split.length
    simp only [List.length_append] at str dst length ⊢
    refine ⟨by omega, by omega, ?_⟩
    have read : scan.str = (before ++ past).length := by
      rw [List.length_append]
      omega
    rw [split.memory, List.append_assoc _ unread]
    conv_lhs => rw [split.str, List.drop_left]
    rw [read, List.append_assoc before, List.append_assoc past, ← List.append_assoc before,
      List.drop_left]
  · intro fuel enough
    have once := del_eq before s after c clean fuel enough
    refine ⟨once, ?_, ?_⟩
    · obtain ⟨wider, _, result⟩ := once
      rw [del_del before s after c clean c fuel enough, result, Option.map_some,
        List.append_assoc, List.cons_append, string_eq _ _ _ (zero_not_mem_kept s c clean)]
      simp [kept]
    · intro d
      rw [del_del before s after c clean d fuel enough, del_del before s after d clean c fuel enough]
      simp [kept, Bool.and_comm]

/-- `del` turns `Hello` into `Heo`. -/
theorem del_filters_hello :
    del 6 [72, 101, 108, 108, 111, 0, 0, 7] 0 108 = some [72, 101, 111, 0, 111, 0, 0, 7] ∧
      ∃ wider, (kept 108 [72, 101, 108, 108, 111]).length + wider.length = 5 ∧
        del 6 [72, 101, 108, 108, 111, 0, 0, 7] 0 108 =
          some ([72, 101, 111] ++ 0 :: wider ++ [0, 7]) := by
  refine ⟨by decide, ?_⟩
  exact ((del_filters [] [72, 101, 108, 108, 111] [0, 7] 108 (by decide)).2 6 (by decide)).1

end Del

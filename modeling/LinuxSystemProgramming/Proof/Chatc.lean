import LinuxSystemProgramming.Construction.Chatc

namespace Chatc
open CString

/-- Each iteration of `SendMsg` sends once. -/
theorem length_sendMsgs (iterations : Nat) (buf : Buffer maxBuf) (stdin : List UInt8) :
    (sendMsgs iterations buf stdin).length = iterations := by
  induction iterations generalizing buf stdin with
  | zero => rfl
  | succ iterations ih => rw [sendMsgs, List.length_cons, ih]

/-- The buffer of `fgets` is sent as its chunk. -/
theorem sendMsg_write (buf : Buffer maxBuf) (bytes : List UInt8)
    (fits : (bytes ++ [0]).length ≤ maxBuf) :
    sendMsg (buf.write (bytes ++ [0]) fits).bytes = sendMsg bytes := by
  change text (bytes ++ [0] ++ _) ++ [0] = text bytes ++ [0]
  rw [List.append_assoc, text_append]
  split
  case isTrue => rfl
  case isFalse clean =>
      have ended (rest : List UInt8) : text ([0] ++ rest) = [] := by simp [text]
      rw [ended, List.append_nil, text_eq_self clean]

/-- What `SendMsg` sends after the end of file. -/
def again (buf : Buffer maxBuf) (stdin : List UInt8) : List UInt8 :=
  ((chunks stdin).map sendMsg).getLast?.getD (sendMsg buf.bytes)

/-- `SendMsg` sends the chunks, and after the end of file it sends the last one again and again. -/
theorem sendMsgs_eq (iterations : Nat) (buf : Buffer maxBuf) (stdin : List UInt8) :
    sendMsgs iterations buf stdin = ((chunks stdin).map sendMsg).take iterations ++
      List.replicate (iterations - (chunks stdin).length) (again buf stdin) := by
  induction iterations generalizing buf stdin with
  | zero => simp [sendMsgs]
  | succ iterations ih =>
      rw [sendMsgs, ih]
      by_cases ended : stdin = []
      · subst ended
        have none : chunks [] = [] := by rw [chunks, dif_pos rfl]
        simp only [fgets, if_true, again, none, List.map_nil, List.take_nil, List.nil_append,
          List.length_nil, Nat.sub_zero, List.replicate_succ, List.getLast?_nil, Option.getD_none]
      · have cut : chunks stdin = chunk (maxBuf - 1) stdin ::
            chunks (stdin.drop (chunk (maxBuf - 1) stdin).length) := by
          rw [chunks, dif_neg ended]
        have repeats : again buf stdin =
            again (fgets buf stdin).1 (fgets buf stdin).2 := by
          simp only [again, fgets, if_neg ended, cut, sendMsg_write, List.map_cons,
            List.getLast?_cons, Option.getD_some]
        rw [repeats]
        simp only [fgets, if_neg ended, cut, sendMsg_write, List.map_cons, List.take_succ_cons,
          List.length_cons, Nat.add_sub_add_right, List.cons_append]

/-- A chunk begins its input. -/
theorem chunk_starts (count : Nat) (stdin : List UInt8) : chunk count stdin <+: stdin := by
  induction count, stdin using chunk.induct with
  | case1 => exact List.nil_prefix
  | case2 => exact List.nil_prefix
  | case3 count rest => simp [chunk]
  | case4 count byte rest other ih => simpa [chunk, other] using ih

/-- The bytes of the chunks are bytes of the input. -/
theorem mem_of_mem_chunks {stdin part : List UInt8} {byte : UInt8} (cut : part ∈ chunks stdin)
    (member : byte ∈ part) : byte ∈ stdin := by
  induction stdin using chunks.induct with
  | case1 =>
      rw [chunks, dif_pos rfl] at cut
      cases cut
  | case2 stdin more ih =>
      rw [chunks, dif_neg more] at cut
      rcases List.mem_cons.mp cut with rfl | later
      · exact (chunk_starts _ stdin).subset member
      · exact List.mem_of_mem_drop (ih later)

/-- A newline among the first bytes ends the chunk, and the rest begins behind it. -/
theorem chunk_line (count : Nat) (stdin : List UInt8) (newline : 10 ∈ stdin.take count) :
    chunk count stdin = stdin.takeWhile (· ≠ 10) ++ [10] ∧
      stdin.drop (chunk count stdin).length = (stdin.dropWhile (· ≠ 10)).drop 1 := by
  induction count, stdin using chunk.induct with
  | case1 => simp at newline
  | case2 => simp at newline
  | case3 count rest => simp [chunk]
  | case4 count byte rest other ih =>
      have later : 10 ∈ rest.take count := by
        simpa [List.take_succ_cons, Ne.symm other] using newline
      obtain ⟨line, behind⟩ := ih later
      have keeps : decide (byte ≠ 10) = true := decide_eq_true other
      simp only [chunk, if_neg other, List.takeWhile_cons, List.dropWhile_cons, keeps, if_true]
      constructor
      · rw [line, List.cons_append]
      · rw [List.length_cons, List.drop_succ_cons]
        exact behind

/-- A buffer with a line sends the line without its newline as the ID. -/
theorem sendID_line (line rest : List UInt8) (clean : 0 ∉ line) (single : 10 ∉ line) :
    sendID (line ++ [10] ++ [0] ++ rest) = some (line ++ [0]) := by
  have whole : text (line ++ [10] ++ [0] ++ rest) = line ++ [10] := by
    rw [List.append_assoc (line ++ [10])]
    refine text_terminated (line ++ [10]) rest ?_
    simp [clean]
  have before : ∀ byte ∈ line, decide (byte ≠ 10) = true := by
    intro byte member
    exact decide_eq_true fun newline => single (newline ▸ member)
  rw [sendID, whole, if_pos (List.mem_append_right _ (List.mem_singleton_self 10)),
    List.takeWhile_append_of_pos before]
  simp

/-- A short first line without zeros is sent as the ID. -/
theorem sends_eq {stdin : List UInt8} (clean : 0 ∉ stdin) (newline : 10 ∈ stdin.take (maxBuf - 1))
    (iterations : Nat) (idBuf buf : Buffer maxBuf) :
    sends iterations idBuf buf stdin = some ((stdin.takeWhile (· ≠ 10) ++ [0]) ::
      sendMsgs iterations buf ((stdin.dropWhile (· ≠ 10)).drop 1)) := by
  have some' : stdin ≠ [] := by
    rintro rfl
    cases newline
  obtain ⟨line, behind⟩ := chunk_line (maxBuf - 1) stdin newline
  have login : sendID (idBuf.write (chunk (maxBuf - 1) stdin ++ [0])
      (chunk_fits stdin)).bytes = some (stdin.takeWhile (· ≠ 10) ++ [0]) := by
    change sendID (chunk (maxBuf - 1) stdin ++ [0] ++ _) = _
    rw [line]
    refine sendID_line _ _ (fun member => clean (List.takeWhile_subset _ member)) ?_
    intro member
    simpa using List.mem_takeWhile_imp member
  rw [sends, fgets, if_neg some', behind]
  exact congrArg (Option.map _) login

/-- Another iteration sends once more, so no encoding is complete. -/
theorem not_encodes (stdin : List UInt8) (idBuf buf : Buffer maxBuf) : ¬ Encodes stdin idBuf buf := by
  rintro ⟨ended, encoded⟩
  have lengths (iterations : Nat) (after : ended ≤ iterations) :
      (encoding stdin).length = iterations + 1 := by
    have sent := encoded iterations after
    rw [sends, Option.map_eq_some_iff] at sent
    obtain ⟨login, _, same⟩ := sent
    rw [← same, List.length_cons, length_sendMsgs]
  have now := lengths ended le_rfl
  have later := lengths (ended + 1) (Nat.le_succ ended)
  omega

/-- The client never encodes its input, because it sends its buffer again after the end of file. -/
theorem encoding_fails (stdin : List UInt8) (idBuf buf : Buffer maxBuf) :
    ¬ Encodes stdin idBuf buf ∧
      (0 ∉ stdin → 10 ∈ stdin.take (maxBuf - 1) → ∀ iterations,
        sends iterations idBuf buf stdin = some ((encoding stdin).take (iterations + 1) ++
          List.replicate (iterations + 1 - (encoding stdin).length)
            (again buf ((stdin.dropWhile (· ≠ 10)).drop 1)))) := by
  constructor
  · exact not_encodes stdin idBuf buf
  · intro clean newline iterations
    have rest : ∀ part ∈ chunks ((stdin.dropWhile (· ≠ 10)).drop 1),
        sendMsg part = part ++ [0] := by
      intro part cut
      have none : 0 ∉ part := fun zero => clean ((List.dropWhile_suffix _).subset
        (List.mem_of_mem_drop (mem_of_mem_chunks cut zero)))
      rw [sendMsg, text_eq_self none]
    rw [sends_eq clean newline, sendMsgs_eq, encoding, List.map_congr_left rest,
      List.take_succ_cons, List.length_cons, List.length_map, Nat.add_sub_add_right,
      List.cons_append]

/-- After the line `kim` the client sends a message that nobody typed, and a line without a newline stops it. -/
theorem sends_after_end : ¬ Encodes [107, 105, 109, 10] (.fill maxBuf 0) (.fill maxBuf 0) ∧
    encoding [107, 105, 109, 10] = [[107, 105, 109, 0]] ∧
    sends 2 (.fill maxBuf 0) (.fill maxBuf 0) [107, 105, 109, 10] =
      some [[107, 105, 109, 0], [0], [0]] ∧
    sends 0 (.fill maxBuf 0) (.fill maxBuf 0) [107, 105, 109] = none := by
  exact ⟨not_encodes _ _ _, by decide +kernel, by decide +kernel, by decide +kernel⟩

end Chatc

import LinuxSystemProgramming.Construction.Chats

namespace Chats
open CString

/-- A formatted message has the mark and a zero besides the ID and the text. -/
theorem length_frame (uid text : List UInt8) :
    (frame uid text).length = uid.length + text.length + 3 := by
  simp only [frame, mark, List.length_append, List.length_cons, List.length_nil]
  omega

/-- A terminated text is formatted behind the ID, and nothing received is formatted as a log-out. -/
theorem formats_eq {client : ClientType} (later : client.first = true) (stale : Buffer maxBuf)
    (received uid : List UInt8) (fits : received.length ≤ maxBuf) (named : client.uid.read = some uid)
    (shown : received = [] ∨ 0 ∈ received) :
    client.formats stale received =
      some (frame uid (if received = [] then logOut else text received)) := by
  rw [ClientType.formats, ClientType.process, if_neg (by simp [later]), dif_pos fits]
  by_cases ended : received = []
  · have logs : (stale.write (logOut ++ [0]) logOut_fits).read = some logOut :=
      stale.read_write logOut [] (by decide) logOut_fits
    simp only [ended, if_true, Option.bind_some, named, logs, Option.map_some]
  · have terminated := shown.resolve_left ended
    simp only [ended, if_false, Option.bind_some, named,
      stale.read_write_of_mem received fits terminated, Option.map_some]

/-- `msg` holds a formatted message unless the ID and the text both have their greatest length. -/
theorem broadcast_fits_iff (client : ClientType) (fresh : client.first = false)
    (old stale : Buffer maxBuf) (id received : List UInt8) (idFits : id.length ≤ maxId)
    (fits : received.length ≤ maxBuf) (named : 0 ∈ id) (shown : received = [] ∨ 0 ∈ received) :
    ∃ stored msg, client.process old id = some (stored, none) ∧
      stored.formats stale received = some msg ∧
      (msg.length ≤ msgSize ↔
        ¬ ((text id).length = maxId - 1 ∧ (text received).length = maxBuf - 1)) := by
  have reads := client.uid.read_write_of_mem id idFits named
  refine ⟨{ client with uid := client.uid.write id idFits, first := true }, _,
    by rw [ClientType.process, if_pos fresh, dif_pos idFits],
    formats_eq rfl stale received (text id) fits reads shown, ?_⟩
  have short := Buffer.length_read_lt reads
  rw [length_frame]
  by_cases ended : received = []
  · subst ended
    simp only [if_true, logOut, text, List.takeWhile_nil, List.length_cons, List.length_nil,
      msgSize, maxBuf, maxId] at short ⊢
    omega
  · have shorter := Buffer.length_read_lt
      (stale.read_write_of_mem received fits (shown.resolve_left ended))
    simp only [ended, if_false, msgSize, maxBuf, maxId] at short shorter ⊢
    omega

/-- An ID of one byte and a text of one byte fit. -/
theorem broadcast_fits_short :
    let client : ClientType := ⟨4, true, .fill maxId 0, false⟩
    ∃ stored msg, client.process (.fill maxBuf 0) [65, 0] = some (stored, none) ∧
      stored.formats (.fill maxBuf 0) [66, 0] = some msg ∧
      (msg.length ≤ msgSize ↔
        ¬ ((text [65, 0]).length = maxId - 1 ∧ (text [66, 0]).length = maxBuf - 1)) :=
  broadcast_fits_iff ⟨4, true, .fill maxId 0, false⟩ rfl (.fill maxBuf 0) (.fill maxBuf 0) [65, 0]
    [66, 0] (by decide) (by decide) (by decide) (by decide)

/-- An ID of 31 bytes and a text of 255 bytes need one byte more than `msg` has. -/
theorem broadcast_overflows :
    let client : ClientType := ⟨4, true, .fill maxId 0, false⟩
    let id : List UInt8 := List.replicate 31 65 ++ [0]
    let received : List UInt8 := List.replicate 255 66 ++ [0]
    ∃ stored msg, client.process (.fill maxBuf 0) id = some (stored, none) ∧
      stored.formats (.fill maxBuf 0) received = some msg ∧ msg.length = msgSize + 1 ∧
      ¬ msg.length ≤ msgSize := by
  intro client id received
  have long : (frame (List.replicate 31 65) (List.replicate 255 66)).length = msgSize + 1 := by
    rw [length_frame, List.length_replicate, List.length_replicate]
    rfl
  refine ⟨{ client with uid := client.uid.write id (by decide), first := true },
    frame (List.replicate 31 65) (List.replicate 255 66), by decide +kernel, by decide +kernel,
    long, ?_⟩
  omega

end Chats

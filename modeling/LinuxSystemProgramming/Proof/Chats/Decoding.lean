import LinuxSystemProgramming.Construction.Chats
import LinuxSystemProgramming.Construction.Chatc

namespace Chats
open CString Chatc

/-- A slot is served with each received part in turn, and the texts of the buffers are collected. -/
def ClientType.receiveAll (stale : Nat → Buffer maxBuf) (client : ClientType) :
    List (List UInt8) → Option (ClientType × List (Option (List UInt8)))
  | [] => some (client, [])
  | received :: rest =>
      (client.process (stale 0) received).bind fun result =>
        (result.1.receiveAll (fun i => stale (i + 1)) rest).map fun final =>
          (final.1, result.2.toList.map Buffer.read ++ final.2)

/-- A stream is cut into the parts that `recv` returns, each one as long as requested at most. -/
structure Cut (stream : List UInt8) (parts : List (List UInt8)) : Prop where
  whole : parts.flatten = stream
  nonempty : ∀ part ∈ parts, part ≠ []
  first : ∀ part ∈ parts.head?, part.length ≤ maxId
  later : ∀ part ∈ parts.tail, part.length ≤ maxBuf

/-- With any earlier contents of the buffers the slot stores the ID and passes on exactly the texts. -/
def Decodes (parts : List (List UInt8)) (id : List UInt8) (texts : List (List UInt8)) : Prop :=
  ∀ (stale : Nat → Buffer maxBuf) (client : ClientType), client.first = false →
    ∃ final, client.receiveAll stale parts = some (final, texts.map some) ∧
      final.uid.read = some id

/-- A slot that has its ID passes on each received part. -/
theorem process_message (client : ClientType) (stale : Buffer maxBuf) (received : List UInt8)
    (loggedIn : client.first = true) (nonempty : received ≠ [])
    (fits : received.length ≤ maxBuf) :
    client.process stale received = some (client, some (stale.write received fits)) := by
  simp [ClientType.process, loggedIn, nonempty, fits]

/-- A slot without an ID stores the received part. -/
theorem process_login (client : ClientType) (stale : Buffer maxBuf) (received : List UInt8)
    (loggedOut : client.first = false) (fits : received.length ≤ maxId) :
    client.process stale received =
      some ({ client with uid := client.uid.write received fits, first := true }, none) := by
  simp [ClientType.process, loggedOut, fits]

/-- The text that a reader finds in a buffer of ones after a part was received. -/
def heard (part : List UInt8) : Option (List UInt8) :=
  if fits : part.length ≤ maxBuf then ((Buffer.fill maxBuf 1).write part fits).read else none

/-- In buffers of ones each part gives one text and the slot stays as it is. -/
theorem receiveAll_ones (client : ClientType) (loggedIn : client.first = true)
    (parts : List (List UInt8)) (nonempty : ∀ part ∈ parts, part ≠ [])
    (fits : ∀ part ∈ parts, part.length ≤ maxBuf) :
    client.receiveAll (fun _ => .fill maxBuf 1) parts = some (client, parts.map heard) := by
  induction parts with
  | nil => rfl
  | cons part rest ih =>
      have short := fits part (List.mem_cons_self ..)
      have later := ih (fun other member => nonempty other (List.mem_cons_of_mem part member))
        (fun other member => fits other (List.mem_cons_of_mem part member))
      rw [ClientType.receiveAll, process_message client _ part loggedIn
        (nonempty part (List.mem_cons_self ..)) short]
      simp [later, heard, short]

/-- A buffer of ones has no zero. -/
theorem zero_not_mem_ones (size : Nat) : 0 ∉ (Buffer.fill size 1).bytes := by
  intro member
  have one := List.eq_of_mem_replicate member
  cases one

/-- A part with a text begins with the text and its terminating zero. -/
theorem extends_of_heard (part string : List UInt8) (reads : heard part = some string) :
    Extends part (string ++ [0]) := by
  unfold heard at reads
  split at reads
  case isTrue fits =>
      obtain ⟨rest, split⟩ := Buffer.written_of_read _ part fits (zero_not_mem_ones maxBuf) string reads
      exact ⟨rest, by simp [split]⟩
  case isFalse => cases reads

/-- Whole frames are read as their texts in any buffers. -/
theorem receiveAll_frames (stale : Nat → Buffer maxBuf) (client : ClientType)
    (loggedIn : client.first = true) (lines : List (List UInt8))
    (fits : ∀ part ∈ lines.map sendMsg, part.length ≤ maxBuf) :
    client.receiveAll stale (lines.map sendMsg) = some (client, (lines.map text).map some) := by
  induction lines generalizing stale with
  | nil => rfl
  | cons line rest ih =>
      have short := fits (sendMsg line) (List.mem_cons_self ..)
      have later := ih (fun i => stale (i + 1))
        (fun part member => fits part (List.mem_cons_of_mem _ member))
      have reads := (stale 0).read_write (text line) [] (zero_not_mem_text line) short
      rw [List.map_cons, ClientType.receiveAll, process_message client _ _ loggedIn
        (by simp [sendMsg]) short]
      simp only [Option.bind_some, later, Option.map_some, Option.toList_some, List.map_cons,
        List.map_nil, List.singleton_append, Option.some.injEq, Prod.mk.injEq, List.cons.injEq,
        and_true, true_and]
      exact reads

/-- The ID `kim` and the message `hi` arrive in one part, and the server passes on no text. -/
theorem coalesced_fails : sendID [107, 105, 109, 10] = some [107, 105, 109, 0] ∧
    Cut ([107, 105, 109, 0] ++ ([[104, 105, 10]].map sendMsg).flatten)
      [[107, 105, 109, 0, 104, 105, 10, 0]] ∧
    ¬ Decodes [[107, 105, 109, 0, 104, 105, 10, 0]] [107, 105, 109] [[104, 105, 10]] := by
  refine ⟨by decide, ⟨by decide, by decide, by decide, by decide⟩, ?_⟩
  intro decodes
  obtain ⟨final, run, _⟩ := decodes (fun _ => .fill maxBuf 0) ⟨0, true, .fill maxId 0, false⟩ rfl
  rw [ClientType.receiveAll, process_login _ _ _ rfl (by decide)] at run
  simp [ClientType.receiveAll] at run

/-- The server decodes the client's stream exactly when each received part is one whole frame. -/
theorem decodesFrames (idLine login : List UInt8) (lines parts : List (List UInt8))
    (sent : sendID idLine = some login)
    (cut : Cut (login ++ (lines.map sendMsg).flatten) parts) :
    Decodes parts (text login) (lines.map text) ↔ parts = login :: lines.map sendMsg := by
  have shape : login = text login ++ [0] ∧ 0 ∉ text login := by
    refine ⟨?_, zero_not_mem_text login⟩
    simp only [sendID, Option.ite_none_right_eq_some, Option.some.injEq] at sent
    have clean : 0 ∉ (text idLine).takeWhile (· ≠ 10) := fun member =>
      zero_not_mem_text idLine (List.takeWhile_subset _ member)
    rw [← sent.2, text_terminated _ [] clean]
  constructor
  · intro decodes
    cases parts with
    | nil =>
        have empty := cut.whole
        rw [shape.1] at empty
        simp at empty
    | cons first rest =>
        have short : first.length ≤ maxId := cut.first first rfl
        obtain ⟨final, run, uid⟩ := decodes (fun _ => .fill maxBuf 1)
          ⟨0, true, .fill maxId 1, false⟩ rfl
        have messages := receiveAll_ones
          ⟨0, true, (Buffer.fill maxId 1).write first short, true⟩ rfl rest
          (fun part member => cut.nonempty part (List.mem_cons_of_mem first member)) cut.later
        rw [ClientType.receiveAll, process_login _ _ first rfl short] at run
        simp only [Option.bind_some, messages, Option.map_some, Option.toList_none, List.map_nil,
          List.nil_append, Option.some.injEq, Prod.mk.injEq] at run
        obtain ⟨rfl, texts⟩ := run
        obtain ⟨tail, begins⟩ := Buffer.written_of_read _ first short (zero_not_mem_ones maxId) _ uid
        have longer : List.Forall₂ Extends (first :: rest) (login :: lines.map sendMsg) := by
          refine .cons ⟨tail, by rw [shape.1]; simpa using begins⟩ ?_
          have pairs : List.Forall₂ Eq (rest.map heard) ((lines.map text).map some) := by
            rw [List.forall₂_eq_eq_eq]
            exact texts
          simp only [List.forall₂_map_left_iff, List.forall₂_map_right_iff] at pairs ⊢
          exact pairs.imp fun part line reads => extends_of_heard part (text line) reads
        exact eq_of_extends longer cut.whole
  · rintro rfl stale client loggedOut
    have short : login.length ≤ maxId := cut.first login rfl
    refine ⟨{ client with uid := client.uid.write login short, first := true }, ?_, ?_⟩
    · rw [ClientType.receiveAll, process_login client _ login loggedOut short]
      simp only [Option.bind_some]
      rw [receiveAll_frames _ _ rfl lines cut.later]
      rfl
    · have fits := short
      rw [shape.1] at fits
      have reads := client.uid.read_write (text login) [] shape.2 fits
      simp only [← shape.1] at reads
      exact reads

/-- The ID `kim` and the message `hi` arrive in two parts, and the server decodes them. -/
theorem decodesFrames_run :
    Decodes [[107, 105, 109, 0], [104, 105, 10, 0]] [107, 105, 109] [[104, 105, 10]] :=
  (decodesFrames [107, 105, 109, 10] [107, 105, 109, 0] [[104, 105, 10]]
    [[107, 105, 109, 0], [104, 105, 10, 0]] (by decide)
    ⟨by decide, by decide, by decide, by decide⟩).mpr (by decide)

end Chats

import LinuxSystemProgramming.Construction.Chats
import LinuxSystemProgramming.Construction.Chatc

namespace Chatc
open CString

/-- The server formats each line from two strings. -/
def frames (lines : List (List UInt8 × List UInt8)) : List (List UInt8) :=
  lines.map fun line => Chats.frame (text line.1) (text line.2)

/-- A stream is cut into the parts that `recv` returns to the client. -/
structure Segments (stream : List UInt8) (parts : List (List UInt8)) : Prop where
  whole : parts.flatten = stream
  nonempty : ∀ part ∈ parts, part ≠ []
  fits : ∀ part ∈ parts, part.length ≤ maxBuf

/-- With any earlier contents of the buffer the client prints exactly the texts, each byte from its own part. -/
def Prints (parts texts : List (List UInt8)) : Prop :=
  ∀ buf : Buffer maxBuf, ∃ printed, receiveMsg buf parts = some printed ∧
    printed.flatten = texts.flatten ∧ List.Forall₂ (· <+: ·) printed parts

/-- The newest part that reaches a position left its byte there. -/
def latest (earlier : List (List UInt8)) (i : Nat) : Option UInt8 :=
  (earlier.find? fun part => decide (i < part.length)).bind fun part => part[i]?

/-- Each part has a zero, or the earlier parts left one directly behind its end. -/
def Ended (earlier : List (List UInt8)) : List (List UInt8) → Prop
  | [] => True
  | part :: rest => (0 ∈ part ∨ latest earlier part.length = some 0) ∧ Ended (part :: earlier) rest

/-- No text follows a zero within a part, and each part is ended. -/
def Clean (parts : List (List UInt8)) : Prop :=
  (∀ part ∈ parts, text part = part.filter (· ≠ 0)) ∧ Ended [] parts

/-- The buffer has the newest received bytes over its first contents. -/
def Tracked (base buf : Buffer maxBuf) (earlier : List (List UInt8)) : Prop :=
  ∀ i, buf.bytes[i]? = (latest earlier i).or base.bytes[i]?

/-- Before the first receive the buffer has its first contents. -/
theorem tracked_start (base : Buffer maxBuf) : Tracked base base [] := by
  intro i
  rw [latest, List.find?_nil, Option.bind_none, Option.none_or]

/-- A receive is the newest part. -/
theorem Tracked.write {base buf : Buffer maxBuf} {earlier : List (List UInt8)}
    (tracked : Tracked base buf earlier) (part : List UInt8) (fits : part.length ≤ maxBuf) :
    Tracked base (buf.write part fits) (part :: earlier) := by
  intro i
  rw [Buffer.getElem?_write, latest]
  by_cases inside : i < part.length
  · simp [inside]
  · rw [List.find?_cons_of_neg (by simpa using inside), if_neg inside]
    exact tracked i

/-- One receive prints a beginning of its part exactly when the part is ended. -/
theorem receive_iff {buf : Buffer maxBuf} {part : List UInt8} {rest printed : List (List UInt8)}
    (nonempty : part ≠ []) (fits : part.length ≤ maxBuf) :
    (receiveMsg buf (part :: rest) = some printed ∧ List.Forall₂ (· <+: ·) printed (part :: rest)) ↔
      (0 ∈ part ∨ buf.bytes[part.length]? = some 0) ∧ ∃ later, printed = text part :: later ∧
        receiveMsg (buf.write part fits) rest = some later ∧ List.Forall₂ (· <+: ·) later rest := by
  rw [receiveMsg, if_neg nonempty, dif_pos fits]
  simp only [Option.bind_eq_some_iff, Option.map_eq_some_iff]
  constructor
  · rintro ⟨⟨string, reads, later, received, rfl⟩, begins⟩
    obtain ⟨first, others⟩ := List.forall₂_cons.mp begins
    obtain ⟨rfl, ended⟩ := (buf.read_write_iff part fits string).mp ⟨reads, first⟩
    exact ⟨ended, later, rfl, received, others⟩
  · rintro ⟨ended, later, rfl, received, others⟩
    obtain ⟨reads, first⟩ := (buf.read_write_iff part fits _).mpr ⟨rfl, ended⟩
    exact ⟨⟨_, reads, later, received, rfl⟩, .cons first others⟩

/-- Ended parts are printed as their texts with any first contents of the buffer. -/
theorem receiveMsg_ended {base : Buffer maxBuf} {parts : List (List UInt8)}
    (nonempty : ∀ part ∈ parts, part ≠ []) (fits : ∀ part ∈ parts, part.length ≤ maxBuf)
    {buf : Buffer maxBuf} {earlier : List (List UInt8)} (tracked : Tracked base buf earlier)
    (ended : Ended earlier parts) :
    receiveMsg buf parts = some (parts.map text) ∧
      List.Forall₂ (· <+: ·) (parts.map text) parts := by
  induction parts generalizing buf earlier with
  | nil => exact ⟨rfl, .nil⟩
  | cons part rest ih =>
      have short := fits part (List.mem_cons_self ..)
      have later := ih (fun other member => nonempty other (List.mem_cons_of_mem part member))
        (fun other member => fits other (List.mem_cons_of_mem part member))
        (tracked.write part short) ended.2
      refine (receive_iff (nonempty part (List.mem_cons_self ..)) short).mpr
        ⟨ended.1.imp_right fun zero => ?_, _, rfl, later⟩
      rw [tracked part.length, zero]
      rfl

/-- A buffer of ones shows each part that is not ended. -/
theorem ended_of_receiveMsg {parts : List (List UInt8)}
    (nonempty : ∀ part ∈ parts, part ≠ []) (fits : ∀ part ∈ parts, part.length ≤ maxBuf)
    {buf : Buffer maxBuf} {earlier : List (List UInt8)}
    (tracked : Tracked (.fill maxBuf 1) buf earlier) {printed : List (List UInt8)}
    (received : receiveMsg buf parts = some printed)
    (begins : List.Forall₂ (· <+: ·) printed parts) :
    printed = parts.map text ∧ Ended earlier parts := by
  induction parts generalizing buf earlier printed with
  | nil =>
      cases begins
      exact ⟨rfl, trivial⟩
  | cons part rest ih =>
      have short := fits part (List.mem_cons_self ..)
      obtain ⟨zero, later, rfl, continued, others⟩ :=
        (receive_iff (nonempty part (List.mem_cons_self ..)) short).mp ⟨received, begins⟩
      obtain ⟨same, ended⟩ :=
        ih (fun other member => nonempty other (List.mem_cons_of_mem part member))
          (fun other member => fits other (List.mem_cons_of_mem part member))
          (tracked.write part short) continued others
      refine ⟨by rw [same, List.map_cons], zero.imp_right fun stale => ?_, ended⟩
      rw [tracked part.length] at stale
      cases newest : latest earlier part.length with
      | some byte => simpa [newest] using stale
      | none =>
          rw [newest, Option.none_or] at stale
          have one := List.eq_of_mem_replicate (List.mem_of_getElem? stale)
          cases one

/-- The text of a frame is all of the frame but its zero. -/
theorem text_frames (lines : List (List UInt8 × List UInt8)) :
    ((frames lines).map text).flatten = (frames lines).flatten.filter (· ≠ 0) := by
  induction lines with
  | nil => rfl
  | cons line rest ih =>
      have clean : 0 ∉ text line.1 ++ Chats.mark ++ text line.2 := by
        simp [zero_not_mem_text, Chats.mark]
      have kept : (text line.1 ++ Chats.mark ++ text line.2).filter (· ≠ 0) =
          text line.1 ++ Chats.mark ++ text line.2 := by
        refine List.filter_eq_self.mpr ?_
        intro byte member
        exact decide_eq_true fun zero => clean (zero ▸ member)
      have head : text (Chats.frame (text line.1) (text line.2)) =
          (Chats.frame (text line.1) (text line.2)).filter (· ≠ 0) := by
        rw [Chats.frame, text_terminated _ [] clean, List.filter_append, kept]
        simp
      have shape : frames (line :: rest) = Chats.frame (text line.1) (text line.2) :: frames rest := rfl
      rw [shape, List.map_cons, List.flatten_cons, List.flatten_cons, List.filter_append, head, ih]

/-- The nonzero bytes of a part begin with its text. -/
theorem filter_extends (part : List UInt8) : Extends (part.filter (· ≠ 0)) (text part) := by
  have kept : (text part).filter (· ≠ 0) = text part := by
    refine List.filter_eq_self.mpr ?_
    intro byte member
    exact decide_eq_true fun zero => zero_not_mem_text part (zero ▸ member)
  refine ⟨(part.dropWhile (· ≠ 0)).filter (· ≠ 0), ?_⟩
  conv_lhs => rw [← List.takeWhile_append_dropWhile (p := fun byte => decide (byte ≠ 0)) (l := part)]
  rw [List.filter_append]
  congr 1

/-- The frames `a> b` and `c> d` arrive in one part, and the client drops the second one. -/
theorem printsFrames_fails :
    Segments (frames [([97], [98]), ([99], [100])]).flatten
      [[97, 62, 32, 98, 0, 99, 62, 32, 100, 0]] ∧
    ¬ Prints [[97, 62, 32, 98, 0, 99, 62, 32, 100, 0]]
      ((frames [([97], [98]), ([99], [100])]).map text) := by
  refine ⟨⟨by decide, by decide, by decide⟩, ?_⟩
  intro prints
  obtain ⟨printed, received, whole, _⟩ := prints (.fill maxBuf 0)
  have first : receiveMsg (.fill maxBuf 0) [[97, 62, 32, 98, 0, 99, 62, 32, 100, 0]] =
      some [[97, 62, 32, 98]] := by decide
  cases Option.some.inj (first.symm.trans received)
  exact absurd whole (by decide)

/-- The client prints the texts of the frames exactly when the parts are clean. -/
theorem printsFrames (lines : List (List UInt8 × List UInt8)) (parts : List (List UInt8))
    (cut : Segments (frames lines).flatten parts) :
    Prints parts ((frames lines).map text) ↔ Clean parts := by
  have total : ((frames lines).map text).flatten = (parts.map (·.filter (· ≠ 0))).flatten := by
    rw [text_frames, ← cut.whole, List.filter_flatten]
  constructor
  · intro prints
    obtain ⟨printed, received, whole, begins⟩ := prints (.fill maxBuf 1)
    obtain ⟨rfl, ended⟩ := ended_of_receiveMsg cut.nonempty cut.fits
      (tracked_start _) received begins
    refine ⟨?_, ended⟩
    have longer : List.Forall₂ Extends (parts.map (·.filter (· ≠ 0))) (parts.map text) := by
      rw [List.forall₂_map_left_iff, List.forall₂_map_right_iff, List.forall₂_same]
      exact fun part _ => filter_extends part
    have same := eq_of_extends longer (total.symm.trans whole.symm)
    intro part member
    exact (List.map_inj_left.mp same part member).symm
  · rintro ⟨single, ended⟩ buf
    obtain ⟨received, begins⟩ := receiveMsg_ended cut.nonempty cut.fits
      (tracked_start _) ended
    refine ⟨parts.map text, received, ?_, begins⟩
    rw [total]
    congr 1
    exact List.map_congr_left single

/-- The second frame arrives in two parts behind a longer first one, and the client prints both. -/
theorem printsFrames_run : Prints [[97, 62, 32, 98, 0], [99, 62, 32, 100], [0]]
    ((frames [([97], [98]), ([99], [100])]).map text) :=
  (printsFrames [([97], [98]), ([99], [100])] [[97, 62, 32, 98, 0], [99, 62, 32, 100], [0]]
    ⟨by decide, by decide, by decide⟩).mpr ⟨by decide, by simp [Ended, latest]⟩

end Chatc

/-
This file proves that over all histories of the server the clients share one room.
-/

import LinuxSystemProgramming.Proof.Chats.Attribution

namespace Chats
open Transition CString

/-- The receives of a connection in their order. -/
def receives (connection : Nat) : List Event → List (List UInt8)
  | [] => []
  | .accepted _ :: past => receives connection past
  | .received other bytes :: past =>
      if other = connection then receives connection past ++ [bytes] else receives connection past

/-- The deliveries to a connection, each one with its sender. -/
def tagged (connection : Nat) : List Event → List (Nat × List UInt8)
  | [] => []
  | .accepted _ :: past => tagged connection past
  | .received other bytes :: past =>
      if other ≠ connection ∧ live connection past = true ∧ (login other past).isSome = true then
        tagged connection past ++ [(other, said bytes)]
      else tagged connection past

/-- A connection says what it sends after its log-in. -/
def spoken (connection : Nat) (history : List Event) : List (List UInt8) :=
  (receives connection history).tail.map said

/-- The room is all that was said in the order in which the server received it, each text with its sender. -/
def room : List Event → List (Nat × List UInt8)
  | [] => []
  | .accepted _ :: past => room past
  | .received other bytes :: past =>
      if (login other past).isSome = true then room past ++ [(other, said bytes)] else room past

/-- The texts of one sender among some lines. -/
def linesOf (other : Nat) (lines : List (Nat × List UInt8)) : List (List UInt8) :=
  (lines.filter fun line => line.1 = other).map Prod.snd

/-- The connections are accepted in the order of their numbers, and only live connections are received from. -/
inductive Chronicle : Nat → List Event → Prop where
  | nil : Chronicle 0 []
  | accepted {opened : Nat} {past : List Event} (before : Chronicle opened past) :
      Chronicle (opened + 1) (.accepted opened :: past)
  | received {opened : Nat} {past : List Event} (before : Chronicle opened past)
      {connection : Nat} (bytes : List UInt8) (alive : live connection past = true) :
      Chronicle opened (.received connection bytes :: past)

/-- The log-in is the first receive. -/
theorem login_eq_head? (connection : Nat) (history : List Event) :
    login connection history = (receives connection history).head? := by
  induction history with
  | nil => rfl
  | cons event past inductionHypothesis =>
      cases event with
      | accepted other => exact inductionHypothesis
      | received other bytes =>
          rw [login_received, receives, inductionHypothesis]
          by_cases own : other = connection
          · rw [if_pos own, if_pos own, List.head?_append, List.head?_singleton]
          · rw [if_neg own, if_neg own, Option.or_none]

/-- The deliveries are the lines under the names of their senders. -/
theorem deliveries_eq (name : Nat → List UInt8) (connection : Nat) (history : List Event) :
    deliveries name connection history =
      (tagged connection history).map fun line => frame (name line.1) line.2 := by
  induction history with
  | nil => rfl
  | cons event past inductionHypothesis =>
      cases event with
      | accepted other => exact inductionHypothesis
      | received other bytes =>
          rw [deliveries, tagged, inductionHypothesis]
          split
          case isTrue => rw [List.map_append, List.map_singleton]
          case isFalse => rfl

/-- A receive after the log-in adds what is said, and the log-in says nothing. -/
theorem spoken_received (connection : Nat) (bytes : List UInt8) (past : List Event) :
    spoken connection (.received connection bytes :: past) =
      if (login connection past).isSome = true then spoken connection past ++ [said bytes]
      else spoken connection past := by
  rw [spoken, spoken, receives, if_pos rfl, login_eq_head?]
  cases receives connection past with
  | nil => rfl
  | cons first rest => simp

/-- The room has what each connection says in its order. -/
theorem linesOf_room (connection : Nat) (history : List Event) :
    linesOf connection (room history) = spoken connection history := by
  induction history with
  | nil => rfl
  | cons event past inductionHypothesis =>
      cases event with
      | accepted other => exact inductionHypothesis
      | received other bytes =>
          by_cases own : other = connection
          · subst own
            rw [spoken_received, room, ← inductionHypothesis]
            split
            case isTrue => simp [linesOf]
            case isFalse => rfl
          · have kept : spoken connection (.received other bytes :: past) =
                spoken connection past := by
              rw [spoken, receives, if_neg own, spoken]
            rw [kept, room, ← inductionHypothesis]
            split
            case isTrue => simp [linesOf, own]
            case isFalse => rfl

section Chronicle
variable {opened : Nat} {history : List Event}

/-- A connection that is not accepted yet has neither sent nor heard anything. -/
theorem Chronicle.fresh (chronicle : Chronicle opened history) {connection : Nat}
    (young : opened ≤ connection) : live connection history = false ∧
      receives connection history = [] ∧ tagged connection history = [] := by
  induction chronicle with
  | nil => exact ⟨rfl, rfl, rfl⟩
  | accepted before inductionHypothesis =>
      obtain ⟨dead, received, heard⟩ := inductionHypothesis (Nat.le_of_succ_le young)
      have different : ¬ _ = connection := Nat.ne_of_lt young
      exact ⟨by rw [live, dead, decide_eq_false different]; rfl, received, heard⟩
  | @received _ _ before other bytes alive inductionHypothesis =>
      obtain ⟨dead, received, heard⟩ := inductionHypothesis young
      have different : other ≠ connection := by
        rintro rfl
        cases alive.symm.trans dead
      refine ⟨by rw [live, dead]; rfl, by rw [receives, if_neg different, received], ?_⟩
      rw [tagged, if_neg (fun given => Bool.false_ne_true (dead.symm.trans given.2.1)), heard]

/-- A connection hears a part of the room without its own lines: what is missing at the front was said before it was accepted, and nothing is missing at the end while it is live. -/
theorem Chronicle.hears (chronicle : Chronicle opened history) (connection : Nat) :
    ∃ missed segment left, room history = missed ++ segment ++ left ∧
      tagged connection history = segment.filter (fun line => line.1 ≠ connection) ∧
      (live connection history = true → left = []) ∧
      ∀ other, connection < other → linesOf other missed = [] := by
  induction chronicle with
  | nil => exact ⟨[], [], [], rfl, rfl, fun _ => rfl, fun _ _ => rfl⟩
  | @accepted opened past before inductionHypothesis =>
      by_cases own : opened = connection
      · subst own
        refine ⟨room past, [], [], ?_, (before.fresh le_rfl).2.2, fun _ => rfl, ?_⟩
        · rw [List.append_nil, List.append_nil]
          rfl
        · intro other later
          rw [linesOf_room, spoken, (before.fresh later.le).2.1]
          rfl
      · obtain ⟨missed, segment, left, split, heard, complete, first⟩ := inductionHypothesis
        refine ⟨missed, segment, left, split, heard, fun alive => complete ?_, first⟩
        simpa [live, own] using alive
  | @received opened past before other bytes _ inductionHypothesis =>
      obtain ⟨missed, segment, left, split, heard, complete, first⟩ := inductionHypothesis
      have before (alive : live connection (.received other bytes :: past) = true) :
          live connection past = true := (Bool.and_eq_true_iff.mp alive).1
      by_cases known : (login other past).isSome = true
      · have grown : room (.received other bytes :: past) =
            missed ++ segment ++ left ++ [(other, said bytes)] := by
          rw [room, if_pos known, split]
        by_cases alive : live connection past = true
        · obtain rfl := complete alive
          refine ⟨missed, segment ++ [(other, said bytes)], [], ?_, ?_, fun _ => rfl, first⟩
          · rw [grown]
            simp
          · rw [tagged, List.filter_append, ← heard]
            by_cases own : other = connection <;> simp [own, alive, known]
        · refine ⟨missed, segment, left ++ [(other, said bytes)], ?_, ?_, ?_, first⟩
          · rw [grown, List.append_assoc]
          · rw [tagged, if_neg (fun given => alive given.2.1), heard]
          · exact fun now => absurd (before now) alive
      · refine ⟨missed, segment, left, ?_, ?_, fun now => complete (before now), first⟩
        · rw [room, if_neg known, split]
        · rw [tagged, if_neg (fun given => known given.2.2), heard]

end Chronicle

section Steps
variable {listener : Nat} {state later : State} {history : List Event}

/-- A step of the server records an accepted connection or a receive, or it records nothing. -/
inductive Records (state later : State) : Label → Prop where
  | accept (newSockfd : Nat) (history : later.history = .accepted state.opened :: state.history)
      (opened : later.opened = state.opened + 1) (sent : later.sent = state.sent) :
      Records state later (.accept newSockfd)
  | serve (stale : Buffer maxBuf) (received : List UInt8) (connection : Nat)
      (behind : state.pass.bind state.connection = some connection)
      (alive : live connection state.history = true)
      (history : later.history = .received connection received :: state.history)
      (opened : later.opened = state.opened)
      (sent : ∀ target, state.sent target <+: later.sent target) :
      Records state later (.serve stale received)
  | loop (label : Label) (other : ∀ stale received, label ≠ .serve stale received)
      (history : later.history = state.history) (opened : later.opened = state.opened)
      (sent : later.sent = state.sent) : Records state later label

/-- A served slot records its receive, and what was sent stays sent. -/
theorem served_history {id : Fin maxClient} {connection : Nat} {stale : Buffer maxBuf}
    {received : List UInt8} (served : Served state id connection stale received later) :
    later.history = .received connection received :: state.history ∧
      later.opened = state.opened ∧ ∀ target, state.sent target <+: later.sent target := by
  cases served with
  | logIn silent fits => exact ⟨rfl, rfl, fun _ => List.prefix_rfl⟩
  | logOut logged ended uid named =>
      rw [sendOthers_eq]
      exact ⟨rfl, rfl, fun _ => List.prefix_append _ _⟩
  | message logged nonempty fits uid text named heard =>
      rw [sendOthers_eq]
      exact ⟨rfl, rfl, fun _ => List.prefix_append _ _⟩

/-- Each step of the server is recorded. -/
theorem records_step (serving : Serving listener state) {label : Label}
    (step : Step listener state label later) : Records state later label := by
  cases step with
  | select ready between set => exact .loop _ nofun rfl rfl rfl
  | skip i here inside clear => exact .loop _ nofun rfl rfl rfl
  | accept newSockfd here small fresh unopened middle accepted =>
      obtain ⟨id, _, rfl⟩ := Option.map_eq_some_iff.mp accepted
      exact .accept newSockfd rfl rfl rfl
  | serve stale received i here client inside middle served =>
      obtain ⟨id, index, used, same⟩ := serving.table.slot serving.snapshot here client
      have own : (⟨state.sockIdx i, inside⟩ : Fin maxClient) = id := Fin.ext index
      rw [own] at served
      obtain ⟨connection, behind⟩ := serving.table.opened id used
      obtain ⟨history, opened, sent⟩ := served_history (served_of_processClient used behind served)
      obtain ⟨name, delivered⟩ := serving.delivered
      have alive := (delivered.live connection).mpr ⟨_, behind⟩
      rw [same] at behind
      refine .serve stale received connection ?_ alive history opened sent
      rw [here.1]
      exact behind
  | finish i here past => exact .loop _ nofun rfl rfl rfl

/-- The string in a buffer has no zero. -/
theorem clean_of_read {size : Nat} {buffer : Buffer size} {string : List UInt8}
    (reads : buffer.read = some string) : 0 ∉ string := by
  rw [Buffer.read, Option.ite_none_right_eq_some, Option.some.injEq] at reads
  exact reads.2 ▸ zero_not_mem_text buffer.bytes

/-- A frame of two strings is whole. -/
theorem whole_frame {uid string : List UInt8} (clean : 0 ∉ uid) (also : 0 ∉ string) :
    whole (frame uid string) = true := by
  have body : 0 ∉ uid ++ mark ++ string := by simp [clean, also, mark]
  refine decide_eq_true (.inr ?_)
  rw [frame, text_terminated _ [] body]

/-- A frame has a short ID and a text that a connection has said. -/
def Formatted (history : List Event) (msg : List UInt8) : Prop :=
  ∃ uid string, msg = frame uid string ∧ (0 ∉ uid ∧ uid.length < maxId) ∧ 0 ∉ string ∧
    ∃ sender, string ∈ spoken sender history

/-- A formatted message is whole. -/
theorem Formatted.whole {msg : List UInt8} (formatted : Formatted history msg) :
    Chats.whole msg = true ∧ msg ≠ [] := by
  obtain ⟨uid, string, rfl, clean, also, _⟩ := formatted
  exact ⟨whole_frame clean.1 also, List.append_ne_nil_of_right_ne_nil _ (List.cons_ne_nil _ _)⟩

/-- What was said stays said. -/
theorem Formatted.grow {msg : List UInt8} (formatted : Formatted history msg) (event : Event) :
    Formatted (event :: history) msg := by
  obtain ⟨uid, string, shape, short, clean, sender, said⟩ := formatted
  refine ⟨uid, string, shape, short, clean, sender, ?_⟩
  cases event with
  | accepted other => exact said
  | received other bytes =>
      by_cases own : other = sender
      · subst own
        rw [spoken_received]
        split
        case isTrue => exact List.mem_append_left _ said
        case isFalse => exact said
      · rwa [spoken, receives, if_neg own]

/-- The server sends formatted messages only. -/
def Sends (state : State) : Prop :=
  ∀ connection, ∀ msg ∈ state.sent connection, Formatted state.history msg

/-- A served slot sends formatted messages. -/
theorem Sends.served (sends : Sends state) {name : Nat → List UInt8}
    (delivered : Delivered name state) {id : Fin maxClient} {connection : Nat}
    {stale : Buffer maxBuf} {received : List UInt8} (used : (state.client id).inUse = true)
    (behind : state.connection (state.client id).sockfd = some connection)
    (complete : whole received = true)
    (served : Served state id connection stale received later) : Sends later := by
  have history := (served_history served).1
  have kept (target : Nat) (msg : List UInt8) (member : msg ∈ state.sent target) :
      Formatted later.history msg := by
    rw [history]
    exact (sends target msg member).grow _
  have new (logged : (state.client id).first = true) {uid : List UInt8}
      (named : (state.client id).uid.read = some uid) :
      Formatted later.history (frame uid (said received)) := by
    have known := (delivered.first id connection used behind).mp logged
    have clean : 0 ∉ said received := by
      rw [said]
      split
      case isTrue => decide
      case isFalse => exact zero_not_mem_text received
    refine ⟨uid, said received, rfl, ⟨clean_of_read named, Buffer.length_read_lt named⟩, clean,
      connection, ?_⟩
    rw [history, spoken_received, if_pos known]
    exact List.mem_append_right _ List.mem_cons_self
  cases served with
  | logIn silent fits => exact kept
  | logOut logged ended uid named =>
      intro target msg member
      rcases mem_sendOthers member with before | rfl
      · exact kept target msg before
      · subst ended
        exact new logged named
  | message logged nonempty fits uid text named heard =>
      intro target msg member
      rcases mem_sendOthers member with before | rfl
      · exact kept target msg before
      · rw [read_whole stale complete nonempty fits, Option.some.injEq] at heard
        have same : said received = text := (if_neg nonempty).trans heard
        exact same ▸ new logged named

/-- Each permitted step of the server sends formatted messages. -/
theorem Sends.step (sends : Sends state) (serving : Serving listener state) {label : Label}
    (allowed : permitted state label = true) (step : Step listener state label later) :
    Sends later := by
  cases step with
  | select ready between set => exact sends
  | skip i here inside clear => exact sends
  | accept newSockfd here small fresh unopened middle accepted =>
      obtain ⟨id, _, rfl⟩ := Option.map_eq_some_iff.mp accepted
      exact fun target msg member => (sends target msg member).grow _
  | serve stale received i here client inside middle served =>
      obtain ⟨id, index, used, same⟩ := serving.table.slot serving.snapshot here client
      have own : (⟨state.sockIdx i, inside⟩ : Fin maxClient) = id := Fin.ext index
      rw [own] at served
      obtain ⟨connection, behind⟩ := serving.table.opened id used
      obtain ⟨name, delivered⟩ := serving.delivered
      have kept : Sends middle := sends.served delivered used behind allowed
        (served_of_processClient used behind served)
      exact kept
  | finish i here past => exact sends

/-- A recorded step extends the history. -/
theorem Chronicle.step (chronicle : Chronicle state.opened state.history) {label : Label}
    (records : Records state later label) : Chronicle later.opened later.history := by
  cases records with
  | accept newSockfd history opened sent =>
      rw [history, opened]
      exact .accepted chronicle
  | serve stale received connection behind alive history opened sent =>
      rw [history, opened]
      exact .received chronicle received alive
  | loop _ other history opened sent =>
      rw [history, opened]
      exact chronicle

end Steps

end Chats

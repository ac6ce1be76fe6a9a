import LinuxSystemProgramming.Proof.Chats.Decoding
import LinuxSystemProgramming.Proof.Chats.Server

namespace Chats
open Transition CString

/-- Each line belongs to a connection. -/
def Line.connection : Line → Nat
  | .logIn connection _ => connection
  | .said connection _ => connection

/-- A record has the ID, and a frame begins with it. -/
def Line.Carries (id : List UInt8) : Line → Prop
  | .logIn _ uid => uid = id
  | .said _ msg => ∃ text, msg = frame id text

/-- Each line carries the ID that its connection sent first. -/
def Attributed (lines : List Line) (history : List Event) : Prop :=
  ∀ line ∈ lines, ∃ bytes, login line.connection history = some bytes ∧ bytes ≠ [] ∧
    line.Carries (text bytes)

/-- A connection that logs in has sent an ID. -/
def speaks (state : State) : Label → Bool
  | .serve _ received =>
      decide (∀ id ∈ state.slot, (state.client id).first = true ∨ received ≠ [])
  | _ => true

/-- The server serves its clients, each log-in has an ID, and each line and frame is attributed. -/
structure Recorded (listener : Nat) (state : State) (lines : List Line) : Prop where
  serving : Serving listener state
  spoken : ∀ connection bytes, login connection state.history = some bytes → bytes ≠ []
  attributed : Attributed lines state.history
  sent : ∀ connection, ∀ msg ∈ state.sent connection, ∃ sender, .said sender msg ∈ lines

section Lines
variable {state : State} {id : Fin maxClient} {connection : Nat} {stale : Buffer maxBuf}
  {received : List UInt8}

/-- A log-in prints the ID that it stored. -/
theorem line_logIn (behind : state.connection (state.client id).sockfd = some connection)
    (silent : (state.client id).first = false) (fits : received.length ≤ maxId)
    {uid : List UInt8} (stored : ((state.client id).uid.write received fits).read = some uid) :
    state.line id stale received = some (.logIn connection uid) := by
  simp [State.line, behind, process_login _ stale received silent fits, stored]

/-- A message goes to the others under the stored ID. -/
theorem line_message (behind : state.connection (state.client id).sockfd = some connection)
    (logged : (state.client id).first = true) (nonempty : received ≠ [])
    (fits : received.length ≤ maxBuf) {uid text : List UInt8}
    (named : (state.client id).uid.read = some uid)
    (heard : (stale.write received fits).read = some text) :
    state.line id stale received = some (.said connection (frame uid text)) := by
  simp [State.line, behind, process_message _ stale received logged nonempty fits, named, heard]

/-- The notice of a log-out goes to the others under the stored ID. -/
theorem line_logOut (behind : state.connection (state.client id).sockfd = some connection)
    (logged : (state.client id).first = true) {uid : List UInt8}
    (named : (state.client id).uid.read = some uid) :
    state.line id stale [] = some (.said connection (frame uid logOut)) := by
  simp [State.line, behind, ClientType.process, logged, named, read_logOut]

/-- The first receive of a connection never changes. -/
theorem login_stays {bytes : List UInt8} {past : List Event} (event : Event)
    (first : login connection past = some bytes) :
    login connection (event :: past) = some bytes := by
  cases event with
  | accepted other => exact first
  | received other later => rw [login_received, first, Option.some_or]

/-- Lines stay attributed while the history grows. -/
theorem Attributed.grow {lines : List Line} {past : List Event} (attributed : Attributed lines past)
    (event : Event) : Attributed lines (event :: past) := by
  intro line member
  obtain ⟨bytes, first, nonempty, carries⟩ := attributed line member
  exact ⟨bytes, login_stays event first, nonempty, carries⟩

/-- One more attributed line keeps the lines attributed. -/
theorem Attributed.append {lines : List Line} {history : List Event}
    (attributed : Attributed lines history) {line : Line} {bytes : List UInt8}
    (first : login line.connection history = some bytes) (nonempty : bytes ≠ [])
    (carries : line.Carries (text bytes)) : Attributed (lines ++ [line]) history := by
  intro other member
  rcases List.mem_append.mp member with before | last
  · exact attributed other before
  · cases List.mem_singleton.mp last
    exact ⟨bytes, first, nonempty, carries⟩

/-- The send loop sends copies of its one message. -/
theorem mem_sendOthers {msg frame : List UInt8} {target : Nat}
    (member : frame ∈ (state.sendOthers id msg).sent target) :
    frame ∈ state.sent target ∨ frame = msg := by
  rw [sendOthers_eq] at member
  rcases List.mem_append.mp member with before | copied
  · exact Or.inl before
  · obtain ⟨slot, _, inside⟩ := List.mem_flatMap.mp copied
    split at inside
    · exact Or.inr (List.mem_singleton.mp inside)
    · cases inside

end Lines

section Steps
variable {listener : Nat} {state later : State} {lines : List Line}

/-- A connection without a log-in has a silent slot, and one with a log-in stored its ID. -/
theorem Recorded.known (recorded : Recorded listener state lines) {id : Fin maxClient}
    {connection : Nat} (used : (state.client id).inUse = true)
    (behind : state.connection (state.client id).sockfd = some connection)
    (logged : (state.client id).first = true) {uid : List UInt8}
    (named : (state.client id).uid.read = some uid) :
    ∃ bytes, login connection state.history = some bytes ∧ bytes ≠ [] ∧ uid = text bytes := by
  obtain ⟨name, delivered⟩ := recorded.serving.delivered
  have before := (delivered.first id connection used behind).mp logged
  obtain ⟨bytes, first⟩ := Option.isSome_iff_exists.mp before
  have nonempty := recorded.spoken connection bytes first
  rw [delivered.uid id connection used behind logged, Option.some.injEq] at named
  exact ⟨bytes, first, nonempty, named ▸ delivered.names connection bytes first nonempty⟩

/-- A silent slot belongs to a connection without a log-in. -/
theorem Serving.unknown (serving : Serving listener state) {id : Fin maxClient} {connection : Nat}
    (used : (state.client id).inUse = true)
    (behind : state.connection (state.client id).sockfd = some connection)
    (silent : (state.client id).first = false) : login connection state.history = none := by
  obtain ⟨name, delivered⟩ := serving.delivered
  exact delivered.unknown used behind silent

/-- A copy to the others under the ID of a connection is a line of that connection. -/
theorem Recorded.copied (recorded : Recorded listener state lines) {id : Fin maxClient}
    {connection : Nat} {bytes : List UInt8} {after : State}
    (first : login connection state.history = some bytes) (nonempty : bytes ≠ [])
    (heard : List UInt8)
    (history : after.history = .received connection heard :: state.history)
    (sent : after.sent = state.sent) {msg : List UInt8}
    (carries : ∃ words, msg = frame (text bytes) words) :
    (∀ other bytes, login other (after.sendOthers id msg).history = some bytes → bytes ≠ []) ∧
      Attributed (lines ++ [.said connection msg]) (after.sendOthers id msg).history ∧
      ∀ target, ∀ copy ∈ (after.sendOthers id msg).sent target,
        ∃ sender, .said sender copy ∈ lines ++ [.said connection msg] := by
  have same : (after.sendOthers id msg).history = .received connection heard :: state.history := by
    rw [← history, sendOthers_eq]
  rw [same]
  refine ⟨?_, (recorded.attributed.grow _).append (login_stays _ first) nonempty carries, ?_⟩
  · intro other said known
    rw [login_known connection heard state.history (by simp [first])] at known
    exact recorded.spoken other said known
  · intro target copy member
    rcases mem_sendOthers member with before | rfl
    · rw [sent] at before
      obtain ⟨sender, inside⟩ := recorded.sent target copy before
      exact ⟨sender, List.mem_append_left _ inside⟩
    · exact ⟨connection, by simp⟩

/-- A served slot keeps the lines attributed when a connection that logs in has sent an ID. -/
theorem Recorded.served (recorded : Recorded listener state lines) {id : Fin maxClient}
    {connection : Nat} {stale : Buffer maxBuf} {received : List UInt8}
    (used : (state.client id).inUse = true)
    (behind : state.connection (state.client id).sockfd = some connection)
    (complete : whole received = true)
    (spoke : (state.client id).first = true ∨ received ≠ [])
    (served : Served state id connection stale received later) :
    (∀ other bytes, login other later.history = some bytes → bytes ≠ []) ∧
      Attributed (lines ++ (state.line id stale received).toList) later.history ∧
      ∀ target, ∀ msg ∈ later.sent target,
        ∃ sender, .said sender msg ∈ lines ++ (state.line id stale received).toList := by
  cases served with
  | logIn silent fits =>
      have nonempty := spoke.resolve_left (by simp [silent])
      have unknown := recorded.serving.unknown used behind silent
      have first : login connection (.received connection received :: state.history) =
          some received := by
        simp [login_received, unknown]
      have line : state.line id stale received = some (.logIn connection (text received)) :=
        line_logIn behind silent fits (read_whole _ complete nonempty fits)
      rw [line]
      refine ⟨?_, (recorded.attributed.grow _).append first nonempty rfl, ?_⟩
      · intro other bytes known
        by_cases own : connection = other
        · subst own
          cases Option.some.inj (first.symm.trans known)
          exact nonempty
        · rw [login_received, if_neg own, Option.or_none] at known
          exact recorded.spoken other bytes known
      · intro target msg member
        obtain ⟨sender, inside⟩ := recorded.sent target msg member
        exact ⟨sender, List.mem_append_left _ inside⟩
  | logOut logged ended uid named =>
      subst ended
      obtain ⟨bytes, first, nonempty, rfl⟩ := recorded.known used behind logged named
      rw [line_logOut behind logged named]
      refine recorded.copied first nonempty [] ?_ ?_ ⟨logOut, rfl⟩
      · rfl
      · rfl
  | message logged nonempty fits uid words named heard =>
      obtain ⟨bytes, first, filled, rfl⟩ := recorded.known used behind logged named
      rw [line_message behind logged nonempty fits named heard]
      refine recorded.copied first filled received ?_ ?_ ⟨words, rfl⟩
      · rfl
      · rfl

/-- The slot that the inner loop serves is in use and has an open connection. -/
theorem Serving.slot (serving : Serving listener state) {i : Nat} (here : state.At i)
    (client : i ≠ listener) (inside : state.sockIdx i < maxClient) :
    state.slot = some ⟨state.sockIdx i, inside⟩ ∧
      (state.client ⟨state.sockIdx i, inside⟩).inUse = true ∧
      ∃ connection, state.connection (state.client ⟨state.sockIdx i, inside⟩).sockfd =
        some connection := by
  obtain ⟨id, index, used, same⟩ := serving.table.slot serving.snapshot here client
  have own : (⟨state.sockIdx i, inside⟩ : Fin maxClient) = id := Fin.ext index
  refine ⟨?_, own ▸ used, own ▸ serving.table.opened id used⟩
  rw [State.slot, here.1, Option.bind_some, dif_pos inside]

/-- Each permitted step with its ID sent keeps the records. -/
theorem recorded_step (recorded : Recorded listener state lines) {label : Label}
    (allowed : permitted state label = true) (spoke : speaks state label = true)
    (step : Step listener state label later) :
    Recorded listener later (lines ++ state.lines label) := by
  have serving := serving_step recorded.serving allowed step
  cases step with
  | select ready between set =>
      simp only [State.lines, List.append_nil]
      exact ⟨serving, recorded.spoken, recorded.attributed, recorded.sent⟩
  | skip i here inside clear =>
      simp only [State.lines, List.append_nil]
      exact ⟨serving, recorded.spoken, recorded.attributed, recorded.sent⟩
  | accept newSockfd here small fresh unopened middle accepted =>
      simp only [State.lines, List.append_nil]
      obtain ⟨id, _, rfl⟩ := Option.map_eq_some_iff.mp accepted
      exact ⟨serving, recorded.spoken, recorded.attributed.grow _, recorded.sent⟩
  | serve stale received i here client inside middle served =>
      obtain ⟨slot, used, connection, behind⟩ := recorded.serving.slot here client inside
      have kind := served_of_processClient used behind served
      have spoken := of_decide_eq_true spoke _ slot
      obtain ⟨nonempty, attributed, sent⟩ := recorded.served used behind allowed spoken kind
      rw [State.lines, slot, Option.bind_some]
      exact ⟨serving, nonempty, attributed, sent⟩
  | finish i here past =>
      simp only [State.lines, List.append_nil]
      exact ⟨serving, recorded.spoken, recorded.attributed, recorded.sent⟩

/-- A log-in without an ID is not attributed. -/
theorem Recorded.silent (recorded : Recorded listener state lines) {label : Label}
    (step : Step listener state label later)
    (attributed : Attributed (lines ++ state.lines label) later.history) :
    speaks state label = true := by
  cases step with
  | select ready between set => rfl
  | skip i here inside clear => rfl
  | accept newSockfd here small fresh unopened middle accepted => rfl
  | finish i here past => rfl
  | serve stale received i here client inside middle served =>
      obtain ⟨slot, used, connection, behind⟩ := recorded.serving.slot here client inside
      rw [State.lines, slot, Option.bind_some] at attributed
      simp only [speaks, decide_eq_true_eq, slot, Option.mem_some_iff, forall_eq']
      by_contra ended
      obtain ⟨quiet, rfl⟩ := not_or.mp ended |>.imp_right not_not.mp
      have silent := Bool.eq_false_iff.mpr quiet
      have unknown := recorded.serving.unknown used behind silent
      obtain ⟨name, delivered⟩ := recorded.serving.delivered
      obtain ⟨uid, stored⟩ := Option.isSome_iff_exists.mp
        (delivered.readable ⟨state.sockIdx i, inside⟩)
      have line : state.line ⟨state.sockIdx i, inside⟩ stale [] = some (.logIn connection uid) :=
        line_logIn behind silent (Nat.zero_le _) stored
      obtain ⟨bytes, first, nonempty, _⟩ := attributed (.logIn connection uid) (by simp [line])
      cases served_of_processClient used behind served with
      | logIn _ fits =>
          have own : login connection (.received connection [] :: state.history) = some [] := by
            simp [login_received, unknown]
          cases Option.some.inj (own.symm.trans first)
          exact nonempty rfl
      | logOut logged _ _ _ => exact quiet logged
      | message logged _ _ _ _ _ _ => exact quiet logged

/-- Every reachable state of the runs in which each connection sends its ID is recorded. -/
theorem reachable_recorded
    (reached : ((logged listener).restrict fun state label =>
      permitted state.1 label && speaks state.1 label).Reachable (state, lines)) :
    Recorded listener state lines := by
  refine reached.invariant (fun state => Recorded listener state.1 state.2) ?_ ?_
  · rintro ⟨state, lines⟩ ⟨⟨sockIdx, rfl⟩, rfl⟩
    refine ⟨serving_start listener sockIdx, ?_, ?_, ?_⟩
    · intro connection bytes first
      cases first
    · intro line member
      cases member
    · intro connection msg member
      cases member
  · rintro ⟨state, lines⟩ label later _ recorded taken
    obtain ⟨allowed, recording⟩ := (System.restrict_next _ _ _ _ _).mp taken
    obtain ⟨middle, moved, rfl⟩ := Option.map_eq_some_iff.mp recording
    obtain ⟨permits, spoke⟩ := Bool.and_eq_true_iff.mp allowed
    exact recorded_step recorded permits spoke (step_of_next moved)

end Steps

/-- A connection ends before its ID, and the server logs it in and out as the earlier client `A`. -/
theorem attributesLines_fails : ∃ (state : State) (lines : List Line),
    ((logged 3).restrict fun state => permitted state.1).Reachable (state, lines) ∧
      login 1 state.history = some [] ∧ .logIn 1 [65] ∈ lines ∧
      .said 1 (frame [65] logOut) ∈ lines ∧ ¬ Attributed lines state.history := by
  let stale : Buffer maxBuf := .fill maxBuf 1
  let connect : List Label := [.select {3}, .skip, .skip, .skip, .accept 4, .skip, .finish]
  let talk (received : List UInt8) : List Label :=
    [.select {4}, .skip, .skip, .skip, .skip, .serve stale received, .finish]
  obtain ⟨⟨state, lines⟩, reached, facts⟩ :=
    ((logged 3).restrict fun state => permitted state.1).exists_reachable
      (start 3 fun _ => 0, []) ⟨⟨_, rfl⟩, rfl⟩
      (connect ++ talk [65, 0] ++ talk [] ++ connect ++ talk [] ++ talk [])
      (fun state => decide (login 1 state.1.history = some [] ∧ .logIn 1 [65] ∈ state.2 ∧
        .said 1 (frame [65] logOut) ∈ state.2)) (by decide)
  simp only [decide_eq_true_eq] at facts
  obtain ⟨silent, recorded, said⟩ := facts
  refine ⟨state, lines, reached, silent, recorded, said, ?_⟩
  intro attributed
  obtain ⟨bytes, first, nonempty, _⟩ := attributed (.logIn 1 [65]) recorded
  cases Option.some.inj (silent.symm.trans first)
  exact nonempty rfl

/-- All lines are attributed exactly while each connection that logs in has sent its ID. -/
theorem attributesLines (listener : Nat) (state : State) (lines : List Line)
    (reached : ((logged listener).restrict fun state label =>
      permitted state.1 label && speaks state.1 label).Reachable (state, lines)) :
    Attributed lines state.history ∧
    (∀ connection, ∀ msg ∈ state.sent connection, ∃ sender, .said sender msg ∈ lines) ∧
    ∀ label later, permitted state label = true →
      (logged listener).next (state, lines) label = some later →
      (Attributed later.2 later.1.history ↔ speaks state label = true) := by
  have recorded := reachable_recorded reached
  refine ⟨recorded.attributed, recorded.sent, ?_⟩
  intro label later allowed taken
  obtain ⟨middle, moved, rfl⟩ := Option.map_eq_some_iff.mp taken
  have step := step_of_next moved
  constructor
  · exact recorded.silent step
  · intro spoke
    exact (recorded_step recorded allowed spoke step).attributed

/-- A client logs in as `A` and says `hi`, and its line carries its ID. -/
theorem attributesLines_run : ∃ lines, .said 0 (frame [65] [104, 105]) ∈ lines ∧
    ∃ state : State, Attributed lines state.history := by
  let stale : Buffer maxBuf := .fill maxBuf 1
  obtain ⟨⟨state, lines⟩, reached, facts⟩ :=
    ((logged 3).restrict fun state label =>
      permitted state.1 label && speaks state.1 label).exists_reachable
      (start 3 fun _ => 0, []) ⟨⟨_, rfl⟩, rfl⟩
      [.select {3}, .skip, .skip, .skip, .accept 4, .skip, .finish,
        .select {4}, .skip, .skip, .skip, .skip, .serve stale [65, 0], .finish,
        .select {4}, .skip, .skip, .skip, .skip, .serve stale [104, 105, 0]]
      (fun state => decide (.said 0 (frame [65] [104, 105]) ∈ state.2)) (by decide)
  simp only [decide_eq_true_eq] at facts
  exact ⟨lines, facts, state, (attributesLines 3 state lines reached).1⟩

end Chats

import LinuxSystemProgramming.Proof.Chats.Routing

namespace Chats
open Transition CString

/-- The first receive on a connection is its log-in, and the history has its newest event first. -/
def login (connection : Nat) : List Event → Option (List UInt8)
  | [] => none
  | .accepted _ :: past => login connection past
  | .received other bytes :: past =>
      match login connection past with
      | some first => some first
      | none => if other = connection then some bytes else none

/-- A connection is live from its acceptance to the end of its stream after its log-in. -/
def live (connection : Nat) : List Event → Bool
  | [] => false
  | .accepted other :: past => decide (other = connection) || live connection past
  | .received other bytes :: past =>
      live connection past &&
        !(decide (other = connection ∧ bytes = []) && (login connection past).isSome)

/-- A receive after the log-in says its text, and the end of the stream says the notice. -/
def said (bytes : List UInt8) : List UInt8 := if bytes = [] then logOut else text bytes

/-- A live connection gets one frame for each text or notice of each other connection. -/
def deliveries (name : Nat → List UInt8) (connection : Nat) : List Event → List (List UInt8)
  | [] => []
  | .accepted _ :: past => deliveries name connection past
  | .received other bytes :: past =>
      if other ≠ connection ∧ live connection past = true ∧ (login other past).isSome = true then
        deliveries name connection past ++ [frame (name other) (said bytes)]
      else deliveries name connection past

/-- The first receive stays the log-in. -/
theorem login_received (connection other : Nat) (bytes : List UInt8) (past : List Event) :
    login connection (.received other bytes :: past) =
      (login connection past).or (if other = connection then some bytes else none) := by
  rw [login]
  cases login connection past <;> rfl

/-- A receive of a connection that has logged in changes no log-in. -/
theorem login_known (connection : Nat) (bytes : List UInt8) (past : List Event)
    (known : (login connection past).isSome = true) (other : Nat) :
    login other (.received connection bytes :: past) = login other past := by
  rw [login_received]
  by_cases equal : connection = other
  · subst equal
    obtain ⟨first, before⟩ := Option.isSome_iff_exists.mp known
    simp [before]
  · simp [equal]

/-- A connection that has logged in stays logged in. -/
theorem login_grows (connection : Nat) (event : Event) (past : List Event)
    (before : (login connection past).isSome = true) :
    (login connection (event :: past)).isSome = true := by
  cases event with
  | accepted other => exact before
  | received other bytes =>
      rw [login_received, Option.isSome_or, before]
      rfl

/-- The deliveries depend only on the names of the connections that have logged in. -/
theorem deliveries_congr (name other : Nat → List UInt8) (connection : Nat) (history : List Event)
    (same : ∀ each, (login each history).isSome = true → name each = other each) :
    deliveries name connection history = deliveries other connection history := by
  induction history with
  | nil => rfl
  | cons event past ih =>
      have earlier := ih fun each before => same each (login_grows each event past before)
      cases event with
      | accepted sender => exact earlier
      | received sender bytes =>
          rw [deliveries, deliveries, earlier]
          by_cases given : sender ≠ connection ∧ live connection past = true ∧
              (login sender past).isSome = true
          · rw [if_pos given, if_pos given,
              same sender (login_grows sender (.received sender bytes) past given.2.2)]
          · rw [if_neg given, if_neg given]

/-- Each connection has one name, and it has got its deliveries under the names of their senders. -/
structure Delivered (name : Nat → List UInt8) (state : State) : Prop where
  past : ∀ connection, state.opened ≤ connection →
    live connection state.history = false ∧ login connection state.history = none
  live : ∀ connection, live connection state.history = true ↔
    ∃ fd, state.connection fd = some connection
  first : ∀ id connection, (state.client id).inUse = true →
    state.connection (state.client id).sockfd = some connection →
      ((state.client id).first = true ↔ (login connection state.history).isSome = true)
  uid : ∀ id connection, (state.client id).inUse = true →
    state.connection (state.client id).sockfd = some connection →
      (state.client id).first = true → (state.client id).uid.read = some (name connection)
  readable : ∀ id, ((state.client id).uid.read).isSome = true
  names : ∀ connection bytes, login connection state.history = some bytes → bytes ≠ [] →
    name connection = text bytes
  sent : ∀ connection, state.sent connection = deliveries name connection state.history

/-- A change of one slot keeps the IDs readable when its own ID stays readable. -/
theorem readable_update {client : Fin maxClient → ClientType}
    (readable : ∀ id, ((client id).uid.read).isSome = true) (id : Fin maxClient) (value : ClientType)
    (reads : value.uid.read.isSome = true) :
    ∀ other, ((Function.update client id value other).uid.read).isSome = true :=
  (Function.forall_update_iff client fun _ client => client.uid.read.isSome = true).mpr
    ⟨reads, fun other _ => readable other⟩

/-- A receive is whole when it is the end of the stream or one terminated string. -/
def whole (bytes : List UInt8) : Bool := decide (bytes = [] ∨ bytes = text bytes ++ [0])

section Accept
variable {listener : Nat} {state later : State} {name : Nat → List UInt8}

/-- An accepted connection has no deliveries yet and starts to be live. -/
theorem Delivered.accept (delivered : Delivered name state) (table : Table listener state)
    (newSockfd : Nat) (unopened : state.connection newSockfd = none)
    (accepted : state.accept newSockfd = some later) : Delivered name later := by
  obtain ⟨id, _, rfl⟩ := Option.map_eq_some_iff.mp accepted
  have old := table.unopened unopened
  have young := delivered.past state.opened le_rfl
  refine ⟨?_, ?_, ?_, ?_, ?_, delivered.names, delivered.sent⟩
  · intro connection fresh
    have before := delivered.past connection (by simp only at fresh; omega)
    have different : state.opened ≠ connection := by
      simp only at fresh
      omega
    exact ⟨by simp [Chats.live, different, before.1], before.2⟩
  · intro connection
    have links := opened_after_accept unopened state.opened
    simp only [Chats.live, Bool.or_eq_true, decide_eq_true_eq, delivered.live, links, exists_or,
      exists_eq_left]
    exact or_congr_left eq_comm
  · intro other connection
    by_cases own : other = id
    · subst own
      simp only [Function.update_self, Option.some.injEq]
      rintro _ rfl
      simp [login, young.2]
    · simp only [Function.update_of_ne own]
      intro used behind
      rw [Function.update_of_ne (old other used)] at behind
      exact delivered.first other connection used behind
  · intro other connection
    by_cases own : other = id
    · subst own
      simp
    · simp only [Function.update_of_ne own]
      intro used behind
      rw [Function.update_of_ne (old other used)] at behind
      exact delivered.uid other connection used behind
  · exact readable_update delivered.readable id _ (delivered.readable id)

end Accept

section Serve
variable {listener : Nat} {state later : State} {name : Nat → List UInt8}

/-- A whole receive that is not the end of the stream is its text and a zero. -/
theorem whole_nonempty {bytes : List UInt8} (complete : whole bytes = true) (nonempty : bytes ≠ []) :
    bytes = text bytes ++ [0] :=
  (of_decide_eq_true complete).resolve_left nonempty

/-- A buffer that received a whole string holds its text. -/
theorem read_whole {size : Nat} (buffer : Buffer size) {bytes : List UInt8}
    (complete : whole bytes = true) (nonempty : bytes ≠ []) (fits : bytes.length ≤ size) :
    (buffer.write bytes fits).read = some (text bytes) := by
  refine buffer.read_write_of_mem bytes fits ?_
  rw [whole_nonempty complete nonempty]
  exact List.mem_append_right _ (List.mem_singleton_self 0)

/-- No other slot in use holds the connection of a slot. -/
theorem Table.other_connection (table : Table listener state) {id other : Fin maxClient}
    {connection link : Nat} (used : (state.client id).inUse = true)
    (behind : state.connection (state.client id).sockfd = some connection) (different : other ≠ id)
    (inUse : (state.client other).inUse = true)
    (present : state.connection (state.client other).sockfd = some link) : link ≠ connection := by
  rintro rfl
  exact different (table.distinct other id inUse used (table.single _ _ link present behind))

/-- A client that has not spoken has not logged in. -/
theorem Delivered.unknown (delivered : Delivered name state) {id : Fin maxClient} {connection : Nat}
    (used : (state.client id).inUse = true)
    (behind : state.connection (state.client id).sockfd = some connection)
    (silent : (state.client id).first = false) : login connection state.history = none := by
  have first := delivered.first id connection used behind
  rw [silent] at first
  cases before : login connection state.history with
  | none => rfl
  | some bytes => simp [before] at first

/-- A receive of a connection that has not logged in ends no connection. -/
theorem live_unknown {connection : Nat} {history : List Event}
    (unknown : login connection history = none) (bytes : List UInt8) (other : Nat) :
    Chats.live other (.received connection bytes :: history) = Chats.live other history := by
  by_cases equal : connection = other
  · subst equal
    simp [Chats.live, unknown]
  · simp [Chats.live, equal]

/-- The ID that a log-in stores is a string, and it is the received one if any. -/
theorem Delivered.stored (delivered : Delivered name state) (id : Fin maxClient)
    {bytes : List UInt8} (fits : bytes.length ≤ maxId) (complete : whole bytes = true) :
    ∃ own, ((state.client id).uid.write bytes fits).read = some own ∧
      (bytes ≠ [] → own = text bytes) := by
  by_cases empty : bytes = []
  · subst empty
    obtain ⟨own, reads⟩ := Option.isSome_iff_exists.mp (delivered.readable id)
    exact ⟨own, reads, fun nonempty => absurd rfl nonempty⟩
  · exact ⟨text bytes, read_whole _ complete empty fits, fun _ => rfl⟩

/-- The log-in of a client stores its name. -/
theorem Delivered.logIn (delivered : Delivered name state) (table : Table listener state)
    (id : Fin maxClient) (connection : Nat) (bytes : List UInt8) (fits : bytes.length ≤ maxId)
    (used : (state.client id).inUse = true)
    (behind : state.connection (state.client id).sockfd = some connection)
    (silent : (state.client id).first = false) (complete : whole bytes = true) :
    ∃ name, Delivered name { state with
      client := Function.update state.client id
        { state.client id with uid := (state.client id).uid.write bytes fits, first := true }
      history := .received connection bytes :: state.history } := by
  have unknown := delivered.unknown used behind silent
  obtain ⟨own, reads, named⟩ := delivered.stored id fits complete
  refine ⟨Function.update name connection own, ?_, ?_, ?_, ?_, ?_, ?_, ?_⟩
  · intro other fresh
    have before := delivered.past other fresh
    have different : connection ≠ other := by
      have young := table.young _ _ behind
      simp only at fresh
      omega
    simp [Chats.live, login_received, different, before.1, before.2]
  · intro other
    rw [live_unknown unknown]
    exact delivered.live other
  · intro other link
    by_cases equal : other = id
    · subst equal
      simp only [Function.update_self]
      intro _ present
      rw [behind, Option.some.injEq] at present
      subst present
      simp [login_received, unknown]
    · simp only [Function.update_of_ne equal]
      intro inUse present
      have different := table.other_connection used behind equal inUse present
      rw [login_received]
      simp only [Ne.symm different, if_false, Option.or_none]
      exact delivered.first other link inUse present
  · intro other link
    by_cases equal : other = id
    · subst equal
      simp only [Function.update_self]
      intro _ present _
      rw [behind, Option.some.injEq] at present
      subst present
      simpa using reads
    · simp only [Function.update_of_ne equal]
      intro inUse present first
      rw [Function.update_of_ne (table.other_connection used behind equal inUse present)]
      exact delivered.uid other link inUse present first
  · exact readable_update delivered.readable id _ (by simp [reads])
  · intro other first
    rw [login_received]
    by_cases equal : connection = other
    · subst equal
      simp only [unknown, Option.none_or, if_true, Option.some.injEq, Function.update_self]
      rintro rfl nonempty
      exact named nonempty
    · simp only [equal, if_false, Option.or_none, Function.update_of_ne (Ne.symm equal)]
      exact delivered.names other first
  · intro other
    rw [deliveries, if_neg (by simp [unknown]), delivered.sent other]
    apply deliveries_congr
    intro each before
    have different : each ≠ connection := by
      rintro rfl
      rw [unknown] at before
      cases before
    rw [Function.update_of_ne different]

/-- A receive of a client that has logged in is delivered to the live others. -/
theorem Delivered.sends (delivered : Delivered name state) (connection : Nat) (bytes : List UInt8)
    (known : (login connection state.history).isSome = true) (copies : Nat → List (List UInt8))
    (grown : ∀ other, later.sent other = state.sent other ++ copies other)
    (chosen : ∀ other, copies other =
      if other ≠ connection ∧ Chats.live other state.history = true then
        [frame (name connection) (said bytes)] else []) (other : Nat) :
    later.sent other = deliveries name other (.received connection bytes :: state.history) := by
  rw [grown, chosen, deliveries, delivered.sent other]
  by_cases given : other ≠ connection ∧ Chats.live other state.history = true
  · rw [if_pos given, if_pos ⟨Ne.symm given.1, given.2, known⟩]
  · rw [if_neg given, if_neg fun all => given ⟨Ne.symm all.1, all.2.1⟩, List.append_nil]

/-- The loop sends one copy to each live connection but that of the sender. -/
theorem Delivered.copies (delivered : Delivered name state) (table : Table listener state)
    (id : Fin maxClient) (connection : Nat) (used : (state.client id).inUse = true)
    (behind : state.connection (state.client id).sockfd = some connection) (msg : List UInt8)
    (other : Nat) : state.copies id msg other (List.finRange maxClient) =
      if other ≠ connection ∧ Chats.live other state.history = true then [msg] else [] := by
  by_cases given : other ≠ connection ∧ Chats.live other state.history = true
  · obtain ⟨different, running⟩ := given
    obtain ⟨fd, present⟩ := (delivered.live other).mp running
    obtain ⟨slot, inUse, rfl⟩ := table.owned fd other present
    have apart : slot ≠ id := by
      rintro rfl
      rw [behind, Option.some.injEq] at present
      exact different present.symm
    rw [if_pos ⟨different, running⟩]
    exact table.copies_other _ inUse apart present
  · rw [if_neg given]
    apply copies_none
    intro slot inUse apart present
    refine given ⟨table.other_connection used behind apart inUse present, ?_⟩
    exact (delivered.live other).mpr ⟨_, present⟩

/-- A message of a client is delivered under its name to the live others. -/
theorem Delivered.message (delivered : Delivered name state) (table : Table listener state)
    (id : Fin maxClient) (connection : Nat) (bytes : List UInt8)
    (used : (state.client id).inUse = true)
    (behind : state.connection (state.client id).sockfd = some connection)
    (logged : (state.client id).first = true) (nonempty : bytes ≠ []) :
    Delivered name (({ state with history := .received connection bytes :: state.history } :
      State).sendOthers id (frame (name connection) (said bytes))) := by
  have known := (delivered.first id connection used behind).mp logged
  have same := login_known connection bytes state.history known
  have alive (other : Nat) : Chats.live other (.received connection bytes :: state.history) =
      Chats.live other state.history := by
    simp [Chats.live, nonempty]
  rw [sendOthers_eq]
  refine ⟨?_, ?_, ?_, delivered.uid, delivered.readable, ?_, ?_⟩
  · intro other fresh
    simp only [alive, same]
    exact delivered.past other fresh
  · intro other
    simp only [alive]
    exact delivered.live other
  · intro other link
    simp only [same]
    exact delivered.first other link
  · intro other first
    simp only [same]
    exact delivered.names other first
  · exact delivered.sends connection bytes known
      (fun other => state.copies id _ other (List.finRange maxClient)) (fun _ => rfl)
      (delivered.copies table id connection used behind _)

/-- The notice of a log-out is delivered under the client's name to the live others. -/
theorem Delivered.logOut (delivered : Delivered name state) (table : Table listener state)
    (id : Fin maxClient) (connection : Nat) (used : (state.client id).inUse = true)
    (behind : state.connection (state.client id).sockfd = some connection)
    (logged : (state.client id).first = true) :
    Delivered name ((({ state with
      client := Function.update state.client id { state.client id with inUse := false }
      history := .received connection [] :: state.history } : State).close
        (state.client id).sockfd).sendOthers id (frame (name connection) (said []))) := by
  have known := (delivered.first id connection used behind).mp logged
  have same := login_known connection [] state.history known
  have alive (other : Nat) : Chats.live other (.received connection [] :: state.history) = true ↔
      other ≠ connection ∧ Chats.live other state.history = true := by
    by_cases equal : connection = other
    · subst equal
      simp [Chats.live, known]
    · simp [Chats.live, equal, Ne.symm equal]
  rw [sendOthers_eq]
  refine ⟨?_, ?_, ?_, ?_, ?_, ?_, ?_⟩
  · intro other fresh
    have before := delivered.past other fresh
    refine ⟨Bool.eq_false_iff.mpr fun running => ?_, by simp only [State.close, same, before.2]⟩
    have still := ((alive other).mp running).2
    rw [before.1] at still
    cases still
  · intro other
    simp only [State.close]
    rw [alive, delivered.live]
    constructor
    · rintro ⟨different, fd, present⟩
      have open' : fd ≠ (state.client id).sockfd := by
        rintro rfl
        rw [behind, Option.some.injEq] at present
        exact different present.symm
      exact ⟨fd, by rw [Function.update_of_ne open', present]⟩
    · rintro ⟨fd, present⟩
      by_cases own : fd = (state.client id).sockfd
      · simp [own] at present
      · rw [Function.update_of_ne own] at present
        refine ⟨?_, fd, present⟩
        rintro rfl
        exact own (table.single _ _ other present behind)
  · intro other link inUse present
    obtain ⟨own, before⟩ := used_after_logOut inUse
    simp only [State.close, Function.update_of_ne own, same] at present ⊢
    rw [Function.update_of_ne (table.sockfd_ne used own before)] at present
    exact delivered.first other link before present
  · intro other link inUse present
    obtain ⟨own, before⟩ := used_after_logOut inUse
    simp only [State.close, Function.update_of_ne own] at present ⊢
    rw [Function.update_of_ne (table.sockfd_ne used own before)] at present
    exact delivered.uid other link before present
  · exact readable_update delivered.readable id _ (delivered.readable id)
  · intro other first
    simp only [State.close, same]
    exact delivered.names other first
  · refine delivered.sends connection [] known
      (fun other => state.copies id (frame (name connection) (said [])) other
        (List.finRange maxClient)) ?_ (delivered.copies table id connection used behind _)
    intro other
    simp only [State.close]
    congr 1
    apply List.flatMap_congr
    intro slot _
    by_cases own : slot = id
    · simp [own]
    · by_cases inUse : (state.client slot).inUse = true
      · simp [own, inUse, table.sockfd_ne used own inUse]
      · simp [own, inUse]

end Serve

end Chats

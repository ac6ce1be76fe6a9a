import LinuxSystemProgramming.Proof.Chats.Delivery
import Mathlib.Data.Finset.Card

namespace Chats
open Transition CString

/-- An accept finds a free slot, and each receive is whole. -/
def permitted (state : State) : Label → Bool
  | .accept _ =>
      decide ((Finset.univ.filter fun id => (state.client id).inUse = true).card < maxClient)
  | .serve _ received => whole received
  | _ => true

/-- A served client logs in, logs out, or sends a message. -/
inductive Served (state : State) (id : Fin maxClient) (connection : Nat) (stale : Buffer maxBuf)
    (received : List UInt8) : State → Prop where
  | logIn (silent : (state.client id).first = false) (fits : received.length ≤ maxId) :
      Served state id connection stale received { state with
        client := Function.update state.client id
          { state.client id with uid := (state.client id).uid.write received fits, first := true }
        history := .received connection received :: state.history }
  | logOut (logged : (state.client id).first = true) (ended : received = []) (uid : List UInt8)
      (named : (state.client id).uid.read = some uid) :
      Served state id connection stale received ((({ state with
        client := Function.update state.client id { state.client id with inUse := false }
        history := .received connection received :: state.history } : State).close
          (state.client id).sockfd).sendOthers id (frame uid Chats.logOut))
  | message (logged : (state.client id).first = true) (nonempty : received ≠ [])
      (fits : received.length ≤ maxBuf) (uid text : List UInt8)
      (named : (state.client id).uid.read = some uid)
      (heard : (stale.write received fits).read = some text) :
      Served state id connection stale received
        (({ state with history := .received connection received :: state.history } :
          State).sendOthers id (frame uid text))

/-- The buffer of a log-out holds the notice. -/
theorem read_logOut (stale : Buffer maxBuf) :
    (stale.write (logOut ++ [0]) logOut_fits).read = some logOut :=
  stale.read_write logOut [] (by decide) logOut_fits

/-- A served slot stores its ID, notices the end of the stream, or fills the buffer. -/
theorem process_cases {client : ClientType} {stale : Buffer maxBuf} {received : List UInt8}
    {result : ClientType × Option (Buffer maxBuf)}
    (processed : client.process stale received = some result) :
    (client.first = false ∧ ∃ fits,
      result = ({ client with uid := client.uid.write received fits, first := true }, none)) ∨
    (client.first = true ∧ received = [] ∧
      result = ({ client with inUse := false }, some (stale.write (logOut ++ [0]) logOut_fits))) ∨
    (client.first = true ∧ received ≠ [] ∧ ∃ fits,
      result = (client, some (stale.write received fits))) := by
  unfold ClientType.process at processed
  split at processed
  case isTrue silent =>
      split at processed
      case isTrue fits => exact Or.inl ⟨silent, fits, (Option.some.inj processed).symm⟩
      case isFalse => cases processed
  case isFalse spoken =>
      have logged : client.first = true := by simpa using spoken
      split at processed
      case isTrue fits =>
          split at processed
          case isTrue ended => exact Or.inr (Or.inl ⟨logged, ended, (Option.some.inj processed).symm⟩)
          case isFalse nonempty =>
              exact Or.inr (Or.inr ⟨logged, nonempty, fits, (Option.some.inj processed).symm⟩)
      case isFalse => cases processed

/-- Each call of `ProcessClient` for a slot in use is one of the three kinds. -/
theorem served_of_processClient {state later : State} {id : Fin maxClient} {connection : Nat}
    {stale : Buffer maxBuf} {received : List UInt8} (used : (state.client id).inUse = true)
    (behind : state.connection (state.client id).sockfd = some connection)
    (taken : state.processClient id stale received = some later) :
    Served state id connection stale received later := by
  simp only [State.processClient, behind, Option.bind_some] at taken
  obtain ⟨result, processed, moved⟩ := Option.bind_eq_some_iff.mp taken
  rcases process_cases processed with ⟨silent, fits, rfl⟩ | ⟨logged, ended, rfl⟩ |
    ⟨logged, nonempty, fits, rfl⟩
  · dsimp only at moved
    rw [if_pos used, Option.some.injEq] at moved
    exact moved ▸ .logIn silent fits
  · dsimp only at moved
    rw [if_neg (by simp), State.sendToOtherClients, read_logOut] at moved
    obtain ⟨uid, named, sent⟩ := Option.bind_eq_some_iff.mp moved
    have same : (state.client id).uid.read = some uid := by
      simpa [State.close] using named
    exact Option.some.inj sent ▸ .logOut logged ended uid same
  · dsimp only at moved
    rw [if_pos used, Function.update_eq_self] at moved
    obtain ⟨uid, named, sent⟩ := Option.bind_eq_some_iff.mp moved
    obtain ⟨text, heard, rfl⟩ := Option.map_eq_some_iff.mp sent
    exact .message logged nonempty fits uid text named heard

/-- The server keeps its table, its snapshot, and the deliveries under the names of the senders. -/
structure Serving (listener : Nat) (state : State) : Prop where
  table : Table listener state
  snapshot : Snapshot state
  delivered : ∃ name, Delivered name state

section Steps
variable {listener : Nat} {state later : State}

/-- A step of the loop variable keeps what the server has stored and sent. -/
theorem Delivered.loop {name : Nat → List UInt8} (delivered : Delivered name state)
    (pass : Option Nat) (cpyReads : Finset Nat) :
    Delivered name { state with pass := pass, cpyReads := cpyReads } :=
  ⟨delivered.past, delivered.live, delivered.first, delivered.uid, delivered.readable,
    delivered.names, delivered.sent⟩

/-- A step of the loop variable keeps the table. -/
theorem Table.loop (table : Table listener state) (pass : Option Nat) (cpyReads : Finset Nat) :
    Table listener { state with pass := pass, cpyReads := cpyReads } :=
  table.congr (fun _ => rfl) (fun _ => rfl) rfl rfl rfl rfl rfl

/-- A served slot keeps the table. -/
theorem Table.served (table : Table listener state) {id : Fin maxClient} {connection : Nat}
    {stale : Buffer maxBuf} {received : List UInt8} (used : (state.client id).inUse = true)
    (served : Served state id connection stale received later) : Table listener later := by
  cases served with
  | logIn silent fits =>
      refine table.congr ?_ ?_ rfl rfl rfl rfl rfl
      · exact (Function.forall_update_iff state.client fun other client =>
          client.inUse = (state.client other).inUse).mpr ⟨rfl, fun _ _ => rfl⟩
      · exact (Function.forall_update_iff state.client fun other client =>
          client.sockfd = (state.client other).sockfd).mpr ⟨rfl, fun _ _ => rfl⟩
  | logOut logged ended uid named =>
      rw [sendOthers_eq]
      exact table.logOut id used rfl rfl rfl rfl rfl rfl
  | message logged nonempty fits uid text named heard =>
      rw [sendOthers_eq]
      exact table.congr (fun _ => rfl) (fun _ => rfl) rfl rfl rfl rfl rfl

/-- A served slot keeps the deliveries, where a log-in adds a name. -/
theorem Delivered.served {name : Nat → List UInt8} (delivered : Delivered name state)
    (table : Table listener state) {id : Fin maxClient} {connection : Nat}
    {stale : Buffer maxBuf} {received : List UInt8} (used : (state.client id).inUse = true)
    (behind : state.connection (state.client id).sockfd = some connection)
    (complete : whole received = true)
    (served : Served state id connection stale received later) : ∃ name, Delivered name later := by
  cases served with
  | logIn silent fits =>
      exact delivered.logIn table id connection received fits used behind silent complete
  | logOut logged ended uid named =>
      subst ended
      rw [delivered.uid id connection used behind logged, Option.some.injEq] at named
      subst named
      exact ⟨name, delivered.logOut table id connection used behind logged⟩
  | message logged nonempty fits uid text named heard =>
      rw [delivered.uid id connection used behind logged, Option.some.injEq] at named
      rw [read_whole stale complete nonempty fits, Option.some.injEq] at heard
      subst named heard
      have same : said received = CString.text received := if_neg nonempty
      rw [← same]
      exact ⟨name, delivered.message table id connection received used behind logged nonempty⟩

/-- A served slot removes its own descriptor at most. -/
theorem served_reads {id : Fin maxClient} {connection : Nat} {stale : Buffer maxBuf}
    {received : List UInt8} (served : Served state id connection stale received later) (fd : Nat)
    (different : fd ≠ (state.client id).sockfd) (member : fd ∈ state.reads) :
    fd ∈ later.reads := by
  cases served with
  | logIn silent fits => exact member
  | logOut logged ended uid named =>
      rw [sendOthers_eq]
      exact Finset.mem_erase.mpr ⟨different, member⟩
  | message logged nonempty fits uid text named heard =>
      rw [sendOthers_eq]
      exact member

/-- A served slot keeps the snapshot. -/
theorem served_cpyReads {id : Fin maxClient} {connection : Nat} {stale : Buffer maxBuf}
    {received : List UInt8} (served : Served state id connection stale received later) :
    later.cpyReads = state.cpyReads := by
  cases served with
  | logIn silent fits => rfl
  | logOut logged ended uid named => rw [sendOthers_eq]; rfl
  | message logged nonempty fits uid text named heard => rw [sendOthers_eq]

/-- Each step keeps the table. -/
theorem Table.step (table : Table listener state) (snapshot : Snapshot state) {label : Label}
    (step : Step listener state label later) : Table listener later := by
  cases step with
  | select ready between set => exact table.loop _ _
  | skip i here inside clear => exact table.loop _ _
  | accept newSockfd here small fresh unopened middle accepted =>
      exact (table.accept newSockfd fresh unopened accepted).loop _ _
  | serve stale received i here client inside middle served =>
      obtain ⟨id, index, used, same⟩ := table.slot snapshot here client
      have own : (⟨state.sockIdx i, inside⟩ : Fin maxClient) = id := Fin.ext index
      rw [own] at served
      obtain ⟨connection, behind⟩ := table.opened id used
      exact (table.served used (served_of_processClient used behind served)).loop _ _
  | finish i here past => exact table.loop _ _

/-- Each step keeps the snapshot. -/
theorem Snapshot.step (snapshot : Snapshot state) (table : Table listener state) {label : Label}
    (step : Step listener state label later) : Snapshot later := by
  cases step with
  | select ready between set =>
      intro i _ fd member _
      exact set member
  | skip i here inside clear =>
      intro next pass fd member later
      cases Option.some.inj pass
      exact snapshot i here fd member (by omega)
  | accept newSockfd here small fresh unopened middle accepted =>
      obtain ⟨id, _, rfl⟩ := Option.map_eq_some_iff.mp accepted
      intro next pass fd member later
      cases Option.some.inj pass
      exact Finset.mem_insert_of_mem (snapshot listener here.1 fd member (by omega))
  | serve stale received i here client inside middle served =>
      obtain ⟨id, index, used, same⟩ := table.slot snapshot here client
      have own : (⟨state.sockIdx i, inside⟩ : Fin maxClient) = id := Fin.ext index
      rw [own] at served
      obtain ⟨connection, behind⟩ := table.opened id used
      have kind := served_of_processClient used behind served
      intro next pass fd member reached
      cases Option.some.inj pass
      have set : fd ∈ state.cpyReads := served_cpyReads kind ▸ member
      exact served_reads kind fd (by omega) (snapshot i here.1 fd set (by omega))
  | finish i here past =>
      intro next pass
      cases pass

/-- Each permitted step keeps the server's invariant. -/
theorem serving_step (serving : Serving listener state) {label : Label}
    (allowed : permitted state label = true) (step : Step listener state label later) :
    Serving listener later := by
  obtain ⟨name, delivered⟩ := serving.delivered
  have table := serving.table
  refine ⟨table.step serving.snapshot step, serving.snapshot.step table step, ?_⟩
  cases step with
  | select ready between set => exact ⟨name, delivered.loop _ _⟩
  | skip i here inside clear => exact ⟨name, delivered.loop _ _⟩
  | accept newSockfd here small fresh unopened middle accepted =>
      exact ⟨name, (delivered.accept table newSockfd unopened accepted).loop _ _⟩
  | serve stale received i here client inside middle served =>
      obtain ⟨id, index, used, same⟩ := table.slot serving.snapshot here client
      have own : (⟨state.sockIdx i, inside⟩ : Fin maxClient) = id := Fin.ext index
      rw [own] at served
      obtain ⟨connection, behind⟩ := table.opened id used
      have kind := served_of_processClient used behind served
      obtain ⟨later, delivers⟩ := delivered.served table used behind allowed kind
      exact ⟨later, delivers.loop _ _⟩
  | finish i here past => exact ⟨name, delivered.loop _ _⟩

/-- The server starts without slots in use and without deliveries. -/
theorem serving_start (listener : Nat) (sockIdx : Nat → Nat) :
    Serving listener (start listener sockIdx) := by
  refine ⟨?_, (by intro i pass; cases pass), fun _ => [], ?_⟩
  · constructor <;> simp [start]
  · constructor <;> simp [start, live, login, deliveries]
    decide

/-- Every reachable state of the permitted runs satisfies the server's invariant. -/
theorem reachable_serving (reached : ((system listener).restrict permitted).Reachable state) :
    Serving listener state := by
  apply reached.invariant (Serving listener)
  · rintro state ⟨sockIdx, rfl⟩
    exact serving_start listener sockIdx
  · intro state label later _ serving taken
    obtain ⟨allowed, moved⟩ := (System.restrict_next _ _ _ _ _).mp taken
    exact serving_step serving allowed (step_of_next moved)

end Steps

/-- Between two iterations the descriptors, slots, and connections agree, and all deliveries are exact. -/
theorem routesMessages (listener : Nat) (state : State)
    (reached : ((system listener).restrict permitted).Reachable state) :
    (∀ fd, fd ∈ state.reads ↔ fd = listener ∨
      ∃ id, (state.client id).inUse = true ∧ (state.client id).sockfd = fd) ∧
    (∀ one other, (state.client one).inUse = true → (state.client other).inUse = true →
      (state.client one).sockfd = (state.client other).sockfd → one = other) ∧
    (∀ id, (state.client id).inUse = true → (state.client id).sockfd ≤ state.fdMax ∧
      state.sockIdx (state.client id).sockfd = id) ∧
    (∀ i, state.At i → i ≠ listener → ∃ id : Fin maxClient, state.sockIdx i = id ∧
      (state.client id).inUse = true ∧ (state.client id).sockfd = i) ∧
    ∃ name : Nat → List UInt8,
      (∀ connection bytes, login connection state.history = some bytes → bytes ≠ [] →
        name connection = text bytes) ∧
      ∀ connection, state.sent connection = deliveries name connection state.history := by
  have serving := reachable_serving reached
  have table := serving.table
  obtain ⟨name, delivered⟩ := serving.delivered
  refine ⟨table.reads, table.distinct, ?_, fun i => table.slot serving.snapshot, name,
    delivered.names, delivered.sent⟩
  intro id used
  exact ⟨table.bounded _ ((table.reads _).mpr (Or.inr ⟨id, used, rfl⟩)), table.index id used⟩

/-- Two clients log in as `A` and `B`, the first one says `hi`, and the second one gets it once. -/
theorem routesMessages_run : ∃ state : State, state.sent 1 = [[65, 62, 32, 104, 105, 0]] ∧
    (∀ fd, fd ∈ state.reads ↔ fd = 3 ∨
      ∃ id, (state.client id).inUse = true ∧ (state.client id).sockfd = fd) := by
  let stale : Buffer maxBuf := .fill maxBuf 1
  obtain ⟨state, reached, facts⟩ := ((system 3).restrict permitted).exists_reachable
    (start 3 fun _ => 0) ⟨_, rfl⟩
    [.select {3}, .skip, .skip, .skip, .accept 4, .skip, .finish,
      .select {3}, .skip, .skip, .skip, .accept 5, .skip, .skip, .finish,
      .select {4, 5}, .skip, .skip, .skip, .skip, .serve stale [65, 0], .serve stale [66, 0], .finish,
      .select {4}, .skip, .skip, .skip, .skip, .serve stale [104, 105, 0]]
    (fun state => decide (state.sent 1 = [[65, 62, 32, 104, 105, 0]])) (by decide)
  simp only [decide_eq_true_eq] at facts
  exact ⟨state, facts, (routesMessages 3 state reached).1⟩

end Chats

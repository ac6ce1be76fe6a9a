import LinuxSystemProgramming.Proof.Chats.Server

namespace Chats
open Transition CString

/-- A connection has room when a slot is free and its descriptor is an index of `sockIdx`. -/
def HasRoom (state : State) (newSockfd : Nat) : Prop :=
  (∃ id, (state.client id).inUse = false) ∧ newSockfd < maxSock

instance (state : State) (newSockfd : Nat) : Decidable (HasRoom state newSockfd) :=
  inferInstanceAs (Decidable (_ ∧ _))

/-- Each accepted connection has room. -/
def roomy (state : State) : Label × Int → Bool
  | (.accept newSockfd, _) => decide (HasRoom state newSockfd)
  | _ => true

/-- The accept branch gives the connection a free slot, or it refuses the connection. -/
inductive Handles (state : State) (newSockfd : Nat) : Option State → Prop where
  | given (later : State) (id : Fin maxClient) (free : (state.client id).inUse = false)
      (slot : later.client = Function.update state.client id
        { state.client id with sockfd := newSockfd, inUse := true, first := false })
      (index : later.sockIdx = Function.update state.sockIdx newSockfd id) :
      Handles state newSockfd (some later)
  | refused (later : State) (reads : later.reads = state.reads)
      (index : later.sockIdx = state.sockIdx)
      (slots : ∀ id, (state.client id).inUse = true → later.client id = state.client id) :
      Handles state newSockfd (some later)

/-- Each open connection has a descriptor that is an index of `sockIdx`. -/
def Small (state : State) : Prop :=
  ∀ fd connection, state.connection fd = some connection → fd < maxSock

section Slots
variable {state : State} {newSockfd : Nat}

/-- `GetID` returns no value exactly when all slots are in use. -/
theorem getID_eq_none (client : Fin maxClient → ClientType) :
    getID client = none ↔ ∀ id, (client id).inUse = true := by
  simp [getID, List.find?_eq_none]

/-- A connection with room is registered under its free slot. -/
theorem acceptAny_of_room (room : HasRoom state newSockfd) (arbitrary : Int) :
    state.acceptAny newSockfd arbitrary = state.accept newSockfd := by
  obtain ⟨⟨free, unused⟩, small⟩ := room
  cases found : getID state.client with
  | none =>
      have used := (getID_eq_none state.client).mp found free
      rw [unused] at used
      cases used
  | some id =>
      have inside : newSockfd < maxSock ∧ (0 : Int) ≤ (id : Nat) ∧ ((id : Nat) : Int).toNat < maxClient :=
        ⟨small, by omega, by simp⟩
      simp [State.acceptAny, State.accept, State.register, found, inside]

/-- A registered connection is in the set, and its descriptor was an index of `sockIdx`. -/
theorem register_reads {index : Int} {client : Fin maxClient → ClientType} {later : State}
    (registered : state.register newSockfd index client = some later) :
    later.reads = insert newSockfd state.reads ∧ newSockfd < maxSock := by
  simp only [State.register, Option.dite_none_right_eq_some, Option.some.injEq] at registered
  obtain ⟨inside, rfl⟩ := registered
  exact ⟨rfl, inside.1⟩

/-- Each accepted connection is in the set, and its descriptor was an index of `sockIdx`. -/
theorem acceptAny_reads {arbitrary : Int} {later : State}
    (accepted : state.acceptAny newSockfd arbitrary = some later) :
    later.reads = insert newSockfd state.reads ∧ newSockfd < maxSock := by
  unfold State.acceptAny at accepted
  split at accepted
  · exact register_reads accepted
  · exact register_reads accepted

/-- A new connection is handled exactly when it has room. -/
theorem handles_iff (absent : newSockfd ∉ state.reads) (arbitrary : Int) :
    Handles state newSockfd (state.acceptAny newSockfd arbitrary) ↔ HasRoom state newSockfd := by
  constructor
  · intro handles
    cases taken : state.acceptAny newSockfd arbitrary with
    | none =>
        rw [taken] at handles
        cases handles
    | some later =>
        rw [taken] at handles
        obtain ⟨reads, small⟩ := acceptAny_reads taken
        cases handles with
        | given _ id free slot index => exact ⟨⟨id, free⟩, small⟩
        | refused _ same index slots =>
            have member : newSockfd ∈ state.reads := by
              rw [← same, reads]
              exact Finset.mem_insert_self _ _
            exact absurd member absent
  · intro room
    rw [acceptAny_of_room room]
    cases found : getID state.client with
    | none =>
        obtain ⟨free, unused⟩ := room.1
        have used := (getID_eq_none state.client).mp found free
        rw [unused] at used
        cases used
    | some id =>
        rw [State.accept, found, Option.map_some]
        exact .given _ id (getID_unused found) rfl rfl

end Slots

section Runs
variable {listener : Nat} {state later : State}

/-- A new descriptor is not in the set. -/
theorem Table.absent (table : Table listener state) {newSockfd : Nat}
    (fresh : newSockfd ≠ listener) (unopened : state.connection newSockfd = none) :
    newSockfd ∉ state.reads := by
  intro member
  obtain ⟨id, used, same⟩ := ((table.reads newSockfd).mp member).resolve_left fresh
  exact table.unopened unopened id used same

/-- A step with room is a step of the server loop. -/
theorem step_of_room {label : Label × Int} (room : roomy state label = true)
    (taken : (overload listener).next state label = some later) :
    state.next listener label.1 = some later := by
  obtain ⟨kind, arbitrary⟩ := label
  cases kind with
  | accept newSockfd =>
      have enough : HasRoom state newSockfd := of_decide_eq_true room
      simp only [overload, acceptAny_of_room enough, Option.ite_none_right_eq_some] at taken
      obtain ⟨⟨here, fresh, unopened⟩, accepted⟩ := taken
      simp only [State.next]
      rw [if_pos ⟨here, enough.2, fresh, unopened⟩]
      exact accepted
  | select ready => exact taken
  | skip => exact taken
  | serve stale received => exact taken
  | finish => exact taken

/-- A step with room keeps the descriptors of the open connections small. -/
theorem Small.step (small : Small state) (table : Table listener state) (snapshot : Snapshot state)
    {label : Label} (step : Step listener state label later) : Small later := by
  cases step with
  | select ready between set => exact small
  | skip i here inside clear => exact small
  | accept newSockfd here inside fresh unopened middle accepted =>
      obtain ⟨id, _, rfl⟩ := Option.map_eq_some_iff.mp accepted
      exact (Function.forall_update_iff state.connection fun fd behind =>
        ∀ connection, behind = some connection → fd < maxSock).mpr
          ⟨fun _ _ => inside, fun fd _ connection => small fd connection⟩
  | serve stale received i here client inside middle served =>
      obtain ⟨id, index, used, same⟩ := table.slot snapshot here client
      have own : (⟨state.sockIdx i, inside⟩ : Fin maxClient) = id := Fin.ext index
      rw [own] at served
      obtain ⟨connection, behind⟩ := table.opened id used
      cases served_of_processClient used behind served with
      | logIn silent fits => exact small
      | logOut logged ended uid named =>
          rw [sendOthers_eq]
          exact (Function.forall_update_iff state.connection fun fd behind =>
            ∀ connection, behind = some connection → fd < maxSock).mpr
              ⟨(by intro connection none; cases none), fun fd _ connection => small fd connection⟩
      | message logged nonempty fits uid text named heard =>
          rw [sendOthers_eq]
          exact small
  | finish i here past => exact small

/-- In the runs where each connection has room the server keeps its table. -/
theorem reachable_registered (reached : ((overload listener).restrict roomy).Reachable state) :
    Table listener state ∧ Snapshot state ∧ Small state := by
  apply reached.invariant fun state => Table listener state ∧ Snapshot state ∧ Small state
  · rintro state ⟨sockIdx, rfl⟩
    have serving := serving_start listener sockIdx
    refine ⟨serving.table, serving.snapshot, ?_⟩
    intro fd connection behind
    cases behind
  · rintro state label later _ ⟨table, snapshot, small⟩ taken
    obtain ⟨room, moved⟩ := (System.restrict_next _ _ _ _ _).mp taken
    have step := step_of_next (step_of_room room moved)
    exact ⟨table.step snapshot step, snapshot.step table step, small.step table snapshot step⟩

end Runs

/-- Five connections fill the table, and the sixth one is neither given a slot nor refused. -/
theorem acceptsConnections_fails : ∃ state : State, (overload 3).Reachable state ∧
    state.At 3 ∧ state.connection 9 = none ∧
    ∀ arbitrary, ¬ Handles state 9 (state.acceptAny 9 arbitrary) := by
  let visit (newSockfd : Nat) : List (Label × Int) :=
    [.select {3}, .skip, .skip, .skip, .accept newSockfd].map (·, 0) ++
      List.replicate (newSockfd - 3) (.skip, 0) ++ [(.finish, 0)]
  obtain ⟨state, reached, facts⟩ := (overload 3).exists_reachable (start 3 fun _ => 0) ⟨_, rfl⟩
    (visit 4 ++ visit 5 ++ visit 6 ++ visit 7 ++ visit 8 ++
      [(.select {3}, 0), (.skip, 0), (.skip, 0), (.skip, 0)])
    (fun state => decide (state.At 3 ∧ state.connection 9 = none ∧ 9 ∉ state.reads ∧
      ¬ HasRoom state 9)) (by decide)
  simp only [decide_eq_true_eq] at facts
  obtain ⟨here, unopened, absent, full⟩ := facts
  exact ⟨state, reached, here, unopened, fun arbitrary handles =>
    full ((handles_iff absent arbitrary).mp handles)⟩

/-- A new connection is handled exactly when it has room, and with room each index is in bounds. -/
theorem acceptsConnections (listener : Nat) (state : State)
    (reached : ((overload listener).restrict roomy).Reachable state) :
    (∀ newSockfd arbitrary, newSockfd ≠ listener → state.connection newSockfd = none →
      (Handles state newSockfd (state.acceptAny newSockfd arbitrary) ↔ HasRoom state newSockfd)) ∧
    (∀ i, state.At i → i ≠ listener → i < maxSock ∧ state.sockIdx i < maxClient) ∧
    ∀ one other first second, state.connection one = some first →
      state.connection other = some second → state.sockIdx one = state.sockIdx other →
      one = other := by
  obtain ⟨table, snapshot, small⟩ := reachable_registered reached
  refine ⟨?_, ?_, ?_⟩
  · intro newSockfd arbitrary fresh unopened
    exact handles_iff (table.absent fresh unopened) arbitrary
  · intro i here client
    obtain ⟨id, index, used, rfl⟩ := table.slot snapshot here client
    obtain ⟨connection, behind⟩ := table.opened id used
    exact ⟨small _ connection behind, index ▸ id.isLt⟩
  · intro one other first second firstBehind secondBehind same
    obtain ⟨id, used, rfl⟩ := table.owned one first firstBehind
    obtain ⟨slot, inUse, rfl⟩ := table.owned other second secondBehind
    rw [table.index id used, table.index slot inUse] at same
    rw [Fin.ext same]

/-- After a first connection the server handles the second one. -/
theorem acceptsConnections_run : ∃ state : State, state.connection 4 = some 0 ∧
    ∀ arbitrary, Handles state 5 (state.acceptAny 5 arbitrary) := by
  obtain ⟨state, reached, facts⟩ := ((overload 3).restrict roomy).exists_reachable
    (start 3 fun _ => 0) ⟨_, rfl⟩
    ([.select {3}, .skip, .skip, .skip, .accept 4].map (·, 0))
    (fun state => decide (state.connection 4 = some 0 ∧ state.connection 5 = none ∧
      HasRoom state 5)) (by decide)
  simp only [decide_eq_true_eq] at facts
  exact ⟨state, facts.1, fun arbitrary =>
    ((acceptsConnections 3 state reached).1 5 arbitrary (by decide) facts.2.1).mpr facts.2.2⟩

end Chats

import LinuxSystemProgramming.Construction.Chats
import Mathlib.Data.List.FinRange

namespace Chats
open Transition CString

/-- The set of descriptors, the slots, and the open connections agree. -/
structure Table (listener : Nat) (state : State) : Prop where
  reads : ∀ fd, fd ∈ state.reads ↔ fd = listener ∨
    ∃ id, (state.client id).inUse = true ∧ (state.client id).sockfd = fd
  distinct : ∀ one other, (state.client one).inUse = true → (state.client other).inUse = true →
    (state.client one).sockfd = (state.client other).sockfd → one = other
  bounded : ∀ fd, fd ∈ state.reads → fd ≤ state.fdMax
  index : ∀ id, (state.client id).inUse = true → state.sockIdx (state.client id).sockfd = id
  apart : ∀ id, (state.client id).inUse = true → (state.client id).sockfd ≠ listener
  opened : ∀ id, (state.client id).inUse = true →
    ∃ connection, state.connection (state.client id).sockfd = some connection
  owned : ∀ fd connection, state.connection fd = some connection →
    ∃ id, (state.client id).inUse = true ∧ (state.client id).sockfd = fd
  single : ∀ one other connection, state.connection one = some connection →
    state.connection other = some connection → one = other
  young : ∀ fd connection, state.connection fd = some connection → connection < state.opened

/-- Each set bit that the inner loop has not reached is a descriptor of the set. -/
def Snapshot (state : State) : Prop :=
  ∀ i, state.pass = some i → ∀ fd ∈ state.cpyReads, i ≤ fd → fd ∈ state.reads

/-- A served descriptor belongs to the slot in use that `sockIdx` names. -/
theorem Table.slot {listener : Nat} {state : State} (table : Table listener state)
    (snapshot : Snapshot state) {i : Nat} (here : state.At i) (client : i ≠ listener) :
    ∃ id : Fin maxClient, state.sockIdx i = id ∧ (state.client id).inUse = true ∧
      (state.client id).sockfd = i := by
  obtain ⟨pass, _, set⟩ := here
  have member := snapshot i pass i set le_rfl
  obtain ⟨id, used, same⟩ := ((table.reads i).mp member).resolve_left client
  exact ⟨id, same ▸ table.index id used, used, same⟩

section Send
variable (state : State) (id : Fin maxClient) (msg : List UInt8)

/-- The frames that the loop sends on a connection. -/
def State.copies (state : State) (id : Fin maxClient) (msg : List UInt8) (connection : Nat)
    (slots : List (Fin maxClient)) : List (List UInt8) :=
  slots.flatMap fun slot =>
    if (state.client slot).inUse = true ∧ slot ≠ id ∧
        state.connection (state.client slot).sockfd = some connection then [msg] else []

/-- Each iteration of the send loop appends the copies of its slot. -/
theorem sendLoop_eq (slots : List (Fin maxClient)) (sent : Nat → List (List UInt8)) :
    slots.foldl
      (fun later slot =>
        if (state.client slot).inUse && decide (slot ≠ id) then
          later.send (state.client slot).sockfd msg
        else later) { state with sent := sent } =
      { state with
        sent := fun connection => sent connection ++ state.copies id msg connection slots } := by
  induction slots generalizing sent with
  | nil => simp [State.copies]
  | cons slot rest ih =>
      rw [List.foldl_cons]
      by_cases chosen : (state.client slot).inUse = true ∧ slot ≠ id
      · rw [if_pos (by simp [chosen])]
        cases behind : state.connection (state.client slot).sockfd with
        | none =>
            have kept : ({ state with sent := sent } : State).send (state.client slot).sockfd msg =
                { state with sent := sent } := by simp [State.send, behind]
            rw [kept, ih]
            simp [State.copies, behind]
        | some target =>
            have grown : ({ state with sent := sent } : State).send (state.client slot).sockfd msg =
                { state with sent := Function.update sent target (sent target ++ [msg]) } := by
              simp [State.send, behind]
            rw [grown, ih]
            congr 1
            funext connection
            by_cases same : connection = target
            · subst same
              simp [State.copies, behind, chosen]
            · simp [State.copies, behind, same, Ne.symm same]
      · rw [if_neg (by simpa using chosen), ih]
        have skipped (connection : Nat) : ¬ ((state.client slot).inUse = true ∧ slot ≠ id ∧
            state.connection (state.client slot).sockfd = some connection) :=
          fun all => chosen ⟨all.1, all.2.1⟩
        simp only [State.copies, List.flatMap_cons, if_neg (skipped _), List.nil_append]

/-- `SendToOtherClients` changes only what was sent. -/
theorem sendOthers_eq : state.sendOthers id msg =
    { state with
      sent := fun connection => state.sent connection ++
        state.copies id msg connection (List.finRange maxClient) } :=
  sendLoop_eq state id msg (List.finRange maxClient) state.sent

end Send

/-- A list without repetitions gives one copy for the one chosen element. -/
theorem flatMap_single {Slot Frame : Type} [DecidableEq Slot] (slots : List Slot)
    (nodup : slots.Nodup) (chosen : Slot → Prop) [DecidablePred chosen] (msg : Frame) (slot : Slot)
    (only : ∀ other, chosen other ↔ other = slot) (member : slot ∈ slots) :
    (slots.flatMap fun other => if chosen other then [msg] else []) = [msg] := by
  induction slots with
  | nil => cases member
  | cons first rest ih =>
      rw [List.flatMap_cons]
      obtain ⟨absent, nodup⟩ := List.nodup_cons.mp nodup
      by_cases same : first = slot
      · subst same
        have none : (rest.flatMap fun other => if chosen other then [msg] else []) = [] := by
          rw [List.flatMap_eq_nil_iff]
          intro other inside
          refine if_neg fun picked => absent ?_
          rw [← (only other).mp picked]
          exact inside
        rw [if_pos ((only first).mpr rfl), none, List.append_nil]
      · rw [if_neg fun picked => same ((only first).mp picked), List.nil_append]
        exact ih nodup ((List.mem_cons.mp member).resolve_left (Ne.symm same))

section Copies
variable {listener : Nat} {state : State}

/-- A connection of another slot gets one copy. -/
theorem Table.copies_other (table : Table listener state) {id slot : Fin maxClient}
    {connection : Nat} (msg : List UInt8) (used : (state.client slot).inUse = true)
    (different : slot ≠ id) (behind : state.connection (state.client slot).sockfd = some connection) :
    state.copies id msg connection (List.finRange maxClient) = [msg] := by
  refine flatMap_single _ (List.nodup_finRange _) _ msg slot ?_ (List.mem_finRange slot)
  intro other
  constructor
  · rintro ⟨inUse, _, same⟩
    exact table.distinct other slot inUse used (table.single _ _ connection same behind)
  · rintro rfl
    exact ⟨used, different, behind⟩

/-- A connection that no other slot holds gets no copy. -/
theorem copies_none {id : Fin maxClient} {connection : Nat} (msg : List UInt8)
    (none : ∀ slot, (state.client slot).inUse = true → slot ≠ id →
      state.connection (state.client slot).sockfd ≠ some connection) :
    state.copies id msg connection (List.finRange maxClient) = [] := by
  rw [State.copies, List.flatMap_eq_nil_iff]
  intro slot _
  exact if_neg fun all => none slot all.1 all.2.1 all.2.2

end Copies

section Steps
variable {listener : Nat} {state later : State}

/-- The table depends only on the slots' descriptors, the set, and the connections. -/
theorem Table.congr (table : Table listener state)
    (used : ∀ id, (later.client id).inUse = (state.client id).inUse)
    (sockfd : ∀ id, (later.client id).sockfd = (state.client id).sockfd)
    (reads : later.reads = state.reads) (fdMax : later.fdMax = state.fdMax)
    (sockIdx : later.sockIdx = state.sockIdx) (connection : later.connection = state.connection)
    (opened : later.opened = state.opened) : Table listener later := by
  constructor
  all_goals simp only [used, sockfd, reads, fdMax, sockIdx, connection, opened]
  · exact table.reads
  · exact table.distinct
  · exact table.bounded
  · exact table.index
  · exact table.apart
  · exact table.opened
  · exact table.owned
  · exact table.single
  · exact table.young

/-- The slot that `GetID` returns is not in use. -/
theorem getID_unused {client : Fin maxClient → ClientType} {id : Fin maxClient}
    (found : getID client = some id) : (client id).inUse = false := by
  have free := List.find?_some found
  simpa using free

/-- A descriptor that is not open is neither in the set nor in a slot. -/
theorem Table.unopened (table : Table listener state) {fd : Nat}
    (unopened : state.connection fd = none) (id : Fin maxClient)
    (used : (state.client id).inUse = true) : (state.client id).sockfd ≠ fd := by
  intro same
  obtain ⟨connection, behind⟩ := table.opened id used
  rw [same, unopened] at behind
  cases behind

/-- The slots in use after an accept are the slot that was free and the slots in use before. -/
theorem used_after_accept {client : Fin maxClient → ClientType} {id : Fin maxClient}
    (unused : (client id).inUse = false) (newSockfd : Nat) (other : Fin maxClient) (fd : Nat) :
    let later := Function.update client id
      { client id with sockfd := newSockfd, inUse := true, first := false }
    (later other).inUse = true ∧ (later other).sockfd = fd ↔
      other = id ∧ fd = newSockfd ∨ (client other).inUse = true ∧ (client other).sockfd = fd := by
  intro later
  by_cases own : other = id
  · subst own
    simp [later, unused, eq_comm]
  · simp [later, own]

/-- The open connections after an accept are the new one and those before. -/
theorem opened_after_accept {connection : Nat → Option Nat} {newSockfd : Nat}
    (unopened : connection newSockfd = none) (opened fd link : Nat) :
    Function.update connection newSockfd (some opened) fd = some link ↔
      fd = newSockfd ∧ link = opened ∨ connection fd = some link := by
  by_cases own : fd = newSockfd
  · subst own
    simp [unopened, eq_comm]
  · simp [own]

/-- An accepted connection gets a free slot and keeps the table. -/
theorem Table.accept (table : Table listener state) (newSockfd : Nat) (fresh : newSockfd ≠ listener)
    (unopened : state.connection newSockfd = none) (accepted : state.accept newSockfd = some later) :
    Table listener later := by
  obtain ⟨id, found, rfl⟩ := Option.map_eq_some_iff.mp accepted
  have slots := used_after_accept (getID_unused found) newSockfd
  have links := opened_after_accept unopened state.opened
  have old := table.unopened unopened
  refine ⟨?_, ?_, ?_, ?_, ?_, ?_, ?_, ?_, ?_⟩
  · intro fd
    rw [Finset.mem_insert, table.reads fd]
    simp only [slots, exists_or, exists_eq_left]
    exact or_left_comm
  · intro one other first second same
    rcases (slots one _).mp ⟨first, same⟩ with ⟨rfl, new⟩ | ⟨usedOne, sameOne⟩
    · rcases (slots other _).mp ⟨second, rfl⟩ with ⟨rfl, _⟩ | ⟨usedOther, sameOther⟩
      · rfl
      · exact absurd (sameOther.trans new) (old other usedOther)
    · rcases (slots other _).mp ⟨second, rfl⟩ with ⟨rfl, new⟩ | ⟨usedOther, sameOther⟩
      · exact absurd (sameOne.trans new) (old one usedOne)
      · exact table.distinct one other usedOne usedOther (sameOne.trans sameOther.symm)
  · intro fd member
    rcases Finset.mem_insert.mp member with rfl | before
    · exact le_max_right _ _
    · exact (table.bounded fd before).trans (le_max_left _ _)
  · intro other inUse
    rcases (slots other _).mp ⟨inUse, rfl⟩ with ⟨rfl, new⟩ | ⟨used, same⟩
    · rw [new]
      exact Function.update_self newSockfd _ state.sockIdx
    · rw [← same]
      exact (Function.update_of_ne (old other used) _ state.sockIdx).trans (table.index other used)
  · intro other inUse
    rcases (slots other _).mp ⟨inUse, rfl⟩ with ⟨rfl, new⟩ | ⟨used, same⟩
    · rw [new]
      exact fresh
    · rw [← same]
      exact table.apart other used
  · intro other inUse
    rcases (slots other _).mp ⟨inUse, rfl⟩ with new | ⟨used, same⟩
    · exact ⟨state.opened, (links _ _).mpr (.inl ⟨new.2, rfl⟩)⟩
    · obtain ⟨link, behind⟩ := table.opened other used
      exact ⟨link, (links _ _).mpr (.inr (same ▸ behind))⟩
  · intro fd link present
    rcases (links fd link).mp present with ⟨new, _⟩ | behind
    · exact ⟨id, (slots id fd).mpr (.inl ⟨rfl, new⟩)⟩
    · obtain ⟨other, used⟩ := table.owned fd link behind
      exact ⟨other, (slots other fd).mpr (.inr used)⟩
  · intro one other link first second
    rcases (links one link).mp first with ⟨newOne, own⟩ | behindOne
    · rcases (links other link).mp second with ⟨newOther, _⟩ | behindOther
      · exact newOne.trans newOther.symm
      · have before := table.young other link behindOther
        omega
    · rcases (links other link).mp second with ⟨newOther, own⟩ | behindOther
      · have before := table.young one link behindOne
        omega
      · exact table.single one other link behindOne behindOther
  · intro fd link present
    rcases (links fd link).mp present with ⟨_, own⟩ | behind
    · exact own ▸ Nat.lt_succ_self _
    · exact (table.young fd link behind).trans (Nat.lt_succ_self _)

/-- The slots in use after a log-out are the other slots in use. -/
theorem used_after_logOut {client : Fin maxClient → ClientType} {id other : Fin maxClient}
    (inUse : (Function.update client id { client id with inUse := false } other).inUse = true) :
    other ≠ id ∧ (client other).inUse = true := by
  by_cases own : other = id
  · subst own
    simp at inUse
  · rw [Function.update_of_ne own] at inUse
    exact ⟨own, inUse⟩

/-- Slots in use have different descriptors. -/
theorem Table.sockfd_ne (table : Table listener state) {id other : Fin maxClient}
    (used : (state.client id).inUse = true) (different : other ≠ id)
    (inUse : (state.client other).inUse = true) :
    (state.client other).sockfd ≠ (state.client id).sockfd :=
  fun same => different (table.distinct other id inUse used same)

/-- A log-out frees the slot together with its descriptor and connection. -/
theorem Table.logOut (table : Table listener state) (id : Fin maxClient)
    (used : (state.client id).inUse = true)
    (client : later.client = Function.update state.client id { state.client id with inUse := false })
    (reads : later.reads = state.reads.erase (state.client id).sockfd)
    (connection : later.connection = Function.update state.connection (state.client id).sockfd none)
    (fdMax : later.fdMax = state.fdMax) (sockIdx : later.sockIdx = state.sockIdx)
    (opened : later.opened = state.opened) : Table listener later := by
  have stays (other : Fin maxClient) (inUse : (later.client other).inUse = true) :
      other ≠ id ∧ (state.client other).inUse = true ∧
        (later.client other).sockfd = (state.client other).sockfd := by
    rw [client] at inUse ⊢
    obtain ⟨own, before⟩ := used_after_logOut inUse
    exact ⟨own, before, by rw [Function.update_of_ne own]⟩
  have kept (other : Fin maxClient) (own : other ≠ id) (inUse : (state.client other).inUse = true) :
      (later.client other).inUse = true ∧
        (later.client other).sockfd = (state.client other).sockfd := by
    simp [client, own, inUse]
  have behind (fd link : Nat) : later.connection fd = some link ↔
      fd ≠ (state.client id).sockfd ∧ state.connection fd = some link := by
    rw [connection]
    by_cases own : fd = (state.client id).sockfd
    · simp [own]
    · simp [own]
  refine ⟨?_, ?_, ?_, ?_, ?_, ?_, ?_, ?_, ?_⟩
  · intro fd
    rw [reads, Finset.mem_erase, table.reads fd]
    constructor
    · rintro ⟨open', rfl | ⟨other, inUse, same⟩⟩
      · exact Or.inl rfl
      · have own : other ≠ id := by
          rintro rfl
          exact open' same.symm
        exact Or.inr ⟨other, (kept other own inUse).1, (kept other own inUse).2.trans same⟩
    · rintro (rfl | ⟨other, inUse, same⟩)
      · exact ⟨Ne.symm (table.apart id used), Or.inl rfl⟩
      · obtain ⟨own, before, equal⟩ := stays other inUse
        rw [equal] at same
        exact ⟨same ▸ table.sockfd_ne used own before, Or.inr ⟨other, before, same⟩⟩
  · intro one other first second same
    obtain ⟨_, usedOne, sameOne⟩ := stays one first
    obtain ⟨_, usedOther, sameOther⟩ := stays other second
    exact table.distinct one other usedOne usedOther (sameOne ▸ sameOther ▸ same)
  · intro fd member
    rw [reads] at member
    rw [fdMax]
    exact table.bounded fd (Finset.mem_of_mem_erase member)
  · intro other inUse
    obtain ⟨_, before, equal⟩ := stays other inUse
    rw [equal, sockIdx]
    exact table.index other before
  · intro other inUse
    obtain ⟨_, before, equal⟩ := stays other inUse
    rw [equal]
    exact table.apart other before
  · intro other inUse
    obtain ⟨own, before, equal⟩ := stays other inUse
    obtain ⟨link, opened⟩ := table.opened other before
    exact ⟨link, equal ▸ (behind _ link).mpr ⟨table.sockfd_ne used own before, opened⟩⟩
  · intro fd link present
    obtain ⟨different, before⟩ := (behind fd link).mp present
    obtain ⟨other, inUse, same⟩ := table.owned fd link before
    have own : other ≠ id := by
      rintro rfl
      exact different same.symm
    exact ⟨other, (kept other own inUse).1, (kept other own inUse).2.trans same⟩
  · intro one other link first second
    exact table.single one other link ((behind one link).mp first).2 ((behind other link).mp second).2
  · intro fd link present
    rw [opened]
    exact table.young fd link ((behind fd link).mp present).2

end Steps

end Chats

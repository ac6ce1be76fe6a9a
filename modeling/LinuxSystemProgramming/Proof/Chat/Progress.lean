/-
This file proves that the server and the clients deliver all that was said when nobody says more.
-/

import LinuxSystemProgramming.Proof.Chat
import LinuxSystemProgramming.Proof.Chats.Broadcast
import LinuxSystemProgramming.Proof.Chats.Overload
import Mathlib.Algebra.Order.BigOperators.Group.Finset

namespace Chat
open Transition CString
open Chats (Event receives tagged spoken linesOf live login said whole Chronicle)

/-- The server works, and the clients print, but nobody connects, says something, or ends. -/
def Label.inner : Label → Bool
  | .server _ => true
  | .receive _ _ => true
  | _ => false

/-- The descriptors that the inner loop has not reached stay readable, and they are bounded. -/
structure Ready (listener : Nat) (state : State) : Prop where
  readable : ∀ i, state.server.pass = some i → ∀ fd ∈ state.server.cpyReads, i ≤ fd →
    state.readable listener fd = true
  bound : state.server.fdMax ≤ max listener Chats.maxSock

section Ready
variable {listener : Nat} {user : Nat → User} {state later : State}

/-- A descriptor can be read for one of three reasons. -/
theorem readable_iff (fd : Nat) : state.readable listener fd = true ↔
    fd = listener ∧ state.server.opened < state.connected ∨
      fd ≠ listener ∧ ∃ client, state.server.connection fd = some client ∧
        (state.toServer client ≠ [] ∨ state.ended client = true) := by
  rw [State.readable]
  by_cases own : fd = listener
  · simp [own]
  · simp [own, Option.any_eq_true]

/-- A readable descriptor stays readable when its connection stays and its stream loses nothing. -/
theorem readable_grow {fd : Nat} (readable : state.readable listener fd = true)
    (waiting : fd = listener → later.server.opened = state.server.opened ∧
      state.connected ≤ later.connected)
    (kept : fd ≠ listener → ∀ client, state.server.connection fd = some client →
      later.server.connection fd = some client ∧
        (state.toServer client ≠ [] → later.toServer client ≠ []) ∧
        (state.ended client = true → later.ended client = true)) :
    later.readable listener fd = true := by
  rw [readable_iff] at readable ⊢
  rcases readable with ⟨own, more⟩ | ⟨other, client, present, input⟩
  · obtain ⟨opened, connected⟩ := waiting own
    exact .inl ⟨own, opened ▸ more.trans_le connected⟩
  · obtain ⟨link, stream, ended⟩ := kept other client present
    exact .inr ⟨other, client, link, input.imp stream ended⟩

/-- A served slot closes its own descriptor at most. -/
theorem served_descriptors {server next : Chats.State} {slot : Fin Chats.maxClient}
    {connection : Nat} {stale : Buffer Chats.maxBuf} {received : List UInt8}
    (served : Chats.Served server slot connection stale received next) :
    next.fdMax = server.fdMax ∧
      ∀ fd, fd ≠ (server.client slot).sockfd → next.connection fd = server.connection fd := by
  cases served with
  | logIn silent fits => exact ⟨rfl, fun _ _ => rfl⟩
  | logOut logged ended uid named =>
      rw [Chats.sendOthers_eq]
      exact ⟨rfl, fun fd different => Function.update_of_ne different _ _⟩
  | message logged nonempty fits uid text named heard =>
      rw [Chats.sendOthers_eq]
      exact ⟨rfl, fun _ _ => rfl⟩

/-- The inner loop serves the connection of its descriptor. -/
theorem served_eq_some {i connection : Nat} (here : state.server.pass = some i)
    (behind : state.server.connection i = some connection) : state.served = some connection := by
  rw [State.served, here]
  exact behind

/-- A step of the server keeps the other descriptors readable. -/
theorem Ready.server (ready : Ready listener state) (inv : Inv listener state)
    {label : Chats.Label} (supplied : state.supplies listener label = true)
    {server : Chats.State} (moved : state.server.next listener label = some server) :
    Ready listener { state with server := server, toServer := state.rest label } := by
  have serving := Chats.reachable_serving inv.server
  cases Chats.step_of_next moved with
  | select chosen between set =>
      refine ⟨fun i _ fd member _ => ?_, ready.bound⟩
      exact of_decide_eq_true supplied fd member
  | skip i here inside clear =>
      refine ⟨fun next pass fd member reached => ?_, ready.bound⟩
      cases Option.some.inj pass
      exact ready.readable i here fd member (Nat.le_of_succ_le reached)
  | accept newSockfd here small fresh unopened middle accepted =>
      obtain ⟨slot, _, rfl⟩ := Option.map_eq_some_iff.mp accepted
      refine ⟨fun next pass fd member reached => ?_, ?_⟩
      · cases Option.some.inj pass
        refine readable_grow (ready.readable listener here.1 fd member (Nat.le_of_succ_le reached))
          (fun own => absurd (own ▸ reached) (Nat.not_succ_le_self _)) fun _ client present => ?_
        refine ⟨?_, id, id⟩
        have different : fd ≠ newSockfd := by
          rintro rfl
          cases unopened.symm.trans present
        exact (Function.update_of_ne different _ _).trans present
      · exact max_le ready.bound (small.le.trans (le_max_right _ _))
  | serve stale received i here client inside middle served =>
      obtain ⟨slot, index, used, same⟩ := serving.table.slot serving.snapshot here client
      have own : (⟨state.server.sockIdx i, inside⟩ : Fin Chats.maxClient) = slot := Fin.ext index
      rw [own] at served
      obtain ⟨connection, behind⟩ := serving.table.opened slot used
      have kind := Chats.served_of_processClient used behind served
      obtain ⟨max, others⟩ := served_descriptors kind
      rw [same] at others behind
      have flow := rest_of_served stale received (served_eq_some here.1 behind)
      refine ⟨fun next pass fd member reached => ?_, max.le.trans ready.bound⟩
      cases Option.some.inj pass
      have set : fd ∈ state.server.cpyReads := Chats.served_cpyReads kind ▸ member
      have different : fd ≠ i := (Nat.lt_of_succ_le reached).ne'
      refine readable_grow (ready.readable i here.1 fd set (Nat.le_of_succ_le reached))
        (fun _ => ?_) fun _ other present => ⟨(others fd different).trans present, ?_, id⟩
      · exact ⟨(Chats.served_history kind).2.1, le_rfl⟩
      · have apart : other ≠ connection := fun equal =>
          different (serving.table.single fd i other present (equal ▸ behind))
        intro input
        simp only [flow, Function.update_of_ne apart]
        exact input
  | finish i here past => exact ⟨nofun, ready.bound⟩

/-- Each aligned step keeps the descriptors readable. -/
theorem Ready.step (ready : Ready listener state) (inv : Inv listener state) {label : Label}
    (step : Step listener user state label later) : Ready listener later := by
  cases step with
  | server label supplied server moved => exact ready.server inv supplied moved
  | connect =>
      refine ⟨fun i pass fd member reached => ?_, ready.bound⟩
      exact readable_grow (ready.readable i pass fd member reached)
        (fun _ => ⟨rfl, Nat.le_succ _⟩) fun _ client present => ⟨present, id, id⟩
  | send sender inside runs frame handed =>
      refine ⟨fun i pass fd member reached => ?_, ready.bound⟩
      refine readable_grow (ready.readable i pass fd member reached) (fun _ => ⟨rfl, le_rfl⟩)
        fun _ client present => ⟨present, fun input => ?_, id⟩
      by_cases own : client = sender
      · subst own
        simp only [Function.update_self]
        exact List.append_ne_nil_of_left_ne_nil input _
      · simp only [Function.update_of_ne own]
        exact input
  | close sender inside =>
      refine ⟨fun i pass fd member reached => ?_, ready.bound⟩
      refine readable_grow (ready.readable i pass fd member reached) (fun _ => ⟨rfl, le_rfl⟩)
        fun _ client present => ⟨present, id, fun ended => ?_⟩
      by_cases own : client = sender
      · simp only [own, Function.update_self]
      · simp only [Function.update_of_ne own]
        exact ended
  | receive client bytes nonempty short arrived => exact ⟨ready.readable, ready.bound⟩

/-- In each state of the aligned runs the descriptors of the snapshot are readable. -/
theorem reachable_ready (reached : ((system listener user).restrict aligned).Reachable state) :
    Ready listener state := by
  apply reached.invariant (Ready listener)
  · rintro state ⟨server, ⟨sockIdx, rfl⟩, rfl⟩
    exact ⟨nofun, le_max_left _ _⟩
  · intro state label later before ready taken
    obtain ⟨_, moved⟩ := (System.restrict_next _ _ _ _ _).mp taken
    exact ready.step (reachable_inv before) (step_of_next moved)

end Ready

/-- The server receives so many times from a client that says no more: its frames, and then the end. -/
def State.due (state : State) (client : Nat) : Nat :=
  (state.handed client).length +
    (if state.ended client = true then if state.handed client = [] then 2 else 1 else 0) -
    (receives client state.server.history).length

/-- The server has so many connections to accept and receives to make. -/
def State.work (state : State) : Nat :=
  (state.connected - state.server.opened) + ∑ client ∈ Finset.range state.connected, state.due client

/-- The clients have so many messages to receive. -/
def State.unheard (state : State) : Nat :=
  ∑ client ∈ Finset.range state.connected,
    ((state.server.sent client).length - (state.heard client).length)

/-- One of these is waiting at a descriptor of the snapshot. -/
def State.waiting (state : State) : Nat :=
  (state.server.pass.any fun i => decide (∃ fd ∈ state.server.cpyReads, i ≤ fd)).toNat

/-- The inner loop has so many descriptors to go. -/
def State.pass (listener : Nat) (state : State) : Nat :=
  state.server.pass.elim 0 fun i => max listener Chats.maxSock + 1 - i + 1

/-- Each receive of the server makes up to one message for each client, and a snapshot pays for its pass by the first descriptor in it. -/
def State.left (listener : Nat) (state : State) : Nat :=
  (state.work - state.waiting) * (max listener Chats.maxSock + state.connected + 3) +
    state.waiting * state.connected + state.unheard + state.pass listener

section Measure
variable {listener : Nat} {user : Nat → User} {state later : State} {client : Nat}

/-- The server has not received more than its clients send. -/
theorem Fed.bound (fed : Fed state client) :
    (receives client state.server.history).length ≤ (state.handed client).length +
      (if state.ended client = true then if state.handed client = [] then 2 else 1 else 0) := by
  cases fed with
  | streaming rest split =>
      rw [split, List.length_append, Nat.add_assoc]
      exact Nat.le_add_right _ _
  | nameless ended none _ received =>
      rw [if_pos ended, if_pos none, none, received]
      decide
  | gone ended _ _ _ received =>
      rw [if_pos ended]
      rcases received with ⟨all, nonempty⟩ | ⟨all, none⟩
      · rw [all, if_neg nonempty, List.length_append, List.length_singleton]
      · rw [all, if_pos none, none]
        decide

/-- A live client with bytes on the way or with an end is due. -/
theorem Fed.due_pos (fed : Fed state client) (alive : live client state.server.history = true)
    (input : state.toServer client ≠ [] ∨ state.ended client = true) : 0 < state.due client := by
  rw [State.due, Nat.sub_pos_iff_lt]
  cases fed with
  | streaming rest split flow =>
      rw [split, List.length_append]
      rcases input with bytes | ended
      · have more : 0 < rest.length := by
          refine List.length_pos_iff.mpr fun none => bytes ?_
          rw [flow, none]
          rfl
        omega
      · rw [if_pos ended]
        split <;> omega
  | nameless ended none _ received =>
      rw [if_pos ended, if_pos none, received, none]
      decide
  | gone _ _ dead => cases alive.symm.trans dead

/-- A readable descriptor means work. -/
theorem Inv.work_pos (inv : Inv listener state) {fd : Nat}
    (readable : state.readable listener fd = true) : 0 < state.work := by
  rw [State.work]
  rcases (readable_iff fd).mp readable with ⟨_, more⟩ | ⟨_, client, present, input⟩
  · omega
  · obtain ⟨_, delivered⟩ := (Chats.reachable_serving inv.server).delivered
    have accepted := (Chats.reachable_serving inv.server).table.young fd client present
    have due := (inv.fed client).due_pos ((delivered.live client).mpr ⟨fd, present⟩) input
    have among : client ∈ Finset.range state.connected :=
      Finset.mem_range.mpr (accepted.trans_le inv.accepted)
    exact Nat.add_pos_right _ (due.trans_le
      (Finset.single_le_sum (f := state.due) (fun _ _ => Nat.zero_le _) among))

/-- The descriptor that waits in the snapshot is work. -/
theorem Inv.waiting_le (inv : Inv listener state) (ready : Ready listener state) :
    state.waiting ≤ state.work := by
  rw [State.waiting]
  cases pending : state.server.pass.any fun i => decide (∃ fd ∈ state.server.cpyReads, i ≤ fd) with
  | false => exact Nat.zero_le _
  | true =>
      obtain ⟨i, pass, some'⟩ := (Option.any_eq_true _ _).mp pending
      obtain ⟨fd, member, reached⟩ := of_decide_eq_true some'
      exact inv.work_pos (ready.readable i pass fd member reached)

/-- A waiting descriptor counts once. -/
theorem waiting_le_one (state : State) : state.waiting ≤ 1 := Bool.toNat_le _

/-- A descriptor of the snapshot waits when the inner loop stands at it. -/
theorem waiting_of_at {i : Nat} (here : state.server.At i) : state.waiting = 1 := by
  have pending : (state.server.pass.any fun i =>
      decide (∃ fd ∈ state.server.cpyReads, i ≤ fd)) = true := by
    rw [here.1]
    exact decide_eq_true ⟨i, here.2.2, le_rfl⟩
  rw [State.waiting, pending]
  rfl

/-- The inner loop has one descriptor less to go. -/
theorem pass_lt {i : Nat} (ready : Ready listener state) (here : state.server.pass = some i)
    (inside : i ≤ state.server.fdMax) (next : later.server.pass = some (i + 1)) :
    later.pass listener < state.pass listener := by
  have bound := ready.bound
  rw [State.pass, State.pass, here, next]
  simp only [Option.elim_some]
  omega

/-- A piece of work pays for the messages that it makes and for the rest of the pass. -/
theorem left_lt {listener : Nat} (inv : Inv listener later) (ready : Ready listener later)
    (connected : later.connected = state.connected) (work : later.work < state.work)
    (waits : state.waiting = 1) (messages : later.unheard ≤ state.unheard + state.connected)
    (pass : later.pass listener < state.pass listener) :
    later.left listener < state.left listener := by
  have paid := inv.waiting_le ready
  rw [State.left, State.left, connected, waits, Nat.one_mul]
  generalize size : max listener Chats.maxSock + state.connected + 3 = size'
  rcases Nat.le_one_iff_eq_zero_or_eq_one.mp (waiting_le_one later) with none | one
  · have less : later.work * size' ≤ (state.work - 1) * size' :=
      Nat.mul_le_mul_right _ (Nat.le_sub_one_of_lt work)
    rw [none, Nat.sub_zero, Nat.zero_mul]
    omega
  · rw [one, Nat.one_mul]
    have less : (later.work - 1 + 1) * size' ≤ (state.work - 1) * size' :=
      Nat.mul_le_mul_right _ (by omega)
    rw [Nat.add_mul, Nat.one_mul] at less
    omega

/-- The server has sent one message for each line. -/
theorem Inv.length_sent (inv : Inv listener state) (client : Nat) :
    (state.server.sent client).length = (tagged client state.server.history).length := by
  obtain ⟨_, delivered⟩ := (Chats.reachable_serving inv.server).delivered
  rw [delivered.sent, Chats.deliveries_eq, List.length_map]

/-- A receive makes up to one line for each client. -/
theorem length_tagged_le (client other : Nat) (bytes : List UInt8) (past : List Event) :
    (tagged client (.received other bytes :: past)).length ≤ (tagged client past).length + 1 := by
  rw [tagged]
  split
  · rw [List.length_append, List.length_singleton]
  · exact Nat.le_succ _

/-- A receive of the server is a piece of work. -/
theorem work_served (inv : Inv listener state) (also : Inv listener later) {connection : Nat}
    {received : List UInt8} (alive : live connection state.server.history = true)
    (history : later.server.history = .received connection received :: state.server.history)
    (opened : later.server.opened = state.server.opened)
    (connected : later.connected = state.connected) (handed : later.handed = state.handed)
    (ended : later.ended = state.ended) : later.work < state.work := by
  have accepted : connection < state.server.opened := by
    refine Nat.lt_of_not_le fun young => ?_
    cases alive.symm.trans (inv.chronicle.fresh young).1
  rw [State.work, State.work, opened, connected]
  refine Nat.add_lt_add_left (Finset.sum_lt_sum (fun client _ => ?_) ⟨connection, ?_, ?_⟩) _
  · rw [State.due, State.due, handed, ended, history, receives]
    refine Nat.sub_le_sub_left ?_ _
    split
    · rw [List.length_append]
      exact Nat.le_add_right _ _
    · exact le_rfl
  · exact Finset.mem_range.mpr (accepted.trans_le inv.accepted)
  · have bound := (also.fed connection).bound
    rw [handed, ended, history, receives, if_pos rfl, List.length_append,
      List.length_singleton] at bound
    rw [State.due, State.due, handed, ended, history, receives, if_pos rfl, List.length_append,
      List.length_singleton]
    omega

/-- A receive of the server makes up to one message for each client. -/
theorem unheard_served (inv : Inv listener state) (also : Inv listener later) {connection : Nat}
    {received : List UInt8}
    (history : later.server.history = .received connection received :: state.server.history)
    (connected : later.connected = state.connected) (heard : later.heard = state.heard) :
    later.unheard ≤ state.unheard + state.connected := by
  have total : state.unheard + state.connected = ∑ client ∈ Finset.range state.connected,
      ((state.server.sent client).length - (state.heard client).length + 1) := by
    rw [Finset.sum_add_distrib, State.unheard, Finset.sum_const, Finset.card_range]
    simp
  rw [total, State.unheard, connected]
  refine Finset.sum_le_sum fun client _ => ?_
  have one := length_tagged_le client connection received state.server.history
  have room := (inv.heard client).length_le
  rw [heard, also.length_sent, history]
  rw [inv.length_sent] at room ⊢
  omega

/-- A snapshot pays for its pass. -/
theorem left_select (between : state.server.pass = none) (begun : later.server.pass = some 0)
    (some' : 0 < state.work) (waits : later.waiting = 1) (connected : later.connected = state.connected)
    (work : later.work = state.work) (messages : later.unheard = state.unheard) :
    later.left listener < state.left listener := by
  have before : state.waiting = 0 := by
    rw [State.waiting, between]
    rfl
  have idle : state.pass listener = 0 := by
    rw [State.pass, between]
    rfl
  have passes : later.pass listener = max listener Chats.maxSock + 2 := by
    rw [State.pass, begun]
    rfl
  rw [State.left, State.left, before, idle, passes, waits, connected, work, messages]
  obtain ⟨rest, more⟩ := Nat.exists_eq_succ_of_ne_zero some'.ne'
  have unit := Nat.succ_mul rest (max listener Chats.maxSock + state.connected + 3)
  rw [more, Nat.succ_sub_one, Nat.sub_zero, Nat.one_mul, Nat.zero_mul, unit]
  omega

/-- A descriptor that is skipped and the end of a pass are paid for. -/
theorem left_loop (waits : later.waiting = state.waiting) (connected : later.connected = state.connected)
    (work : later.work = state.work) (messages : later.unheard = state.unheard)
    (pass : later.pass listener < state.pass listener) :
    later.left listener < state.left listener := by
  rw [State.left, State.left, waits, connected, work, messages]
  exact Nat.add_lt_add_left pass _

/-- Each step of the server leaves less to do. -/
theorem left_server (inv : Inv listener state) (ready : Ready listener state) {label : Chats.Label}
    (allowed : Chats.permitted state.server label = true)
    (supplied : state.supplies listener label = true) {server : Chats.State}
    (moved : state.server.next listener label = some server) :
    State.left listener { state with server := server, toServer := state.rest label } <
      state.left listener := by
  have step : Step listener (fun _ => ⟨[], .fill _ 0, .fill _ 0, .fill _ 0⟩) state (.server label) _ :=
    .server label supplied server moved
  have permits : aligned state (.server label) = true := allowed
  have also := inv.step permits step
  have next := ready.server inv supplied moved
  cases Chats.step_of_next moved with
  | select chosen between set =>
      simp only [Chats.State.next, Option.ite_none_right_eq_some] at moved
      obtain ⟨fd, member⟩ := moved.1.2.1
      refine left_select between rfl (inv.work_pos (of_decide_eq_true supplied fd member)) ?_
        rfl rfl rfl
      have pending : decide (∃ fd ∈ chosen, 0 ≤ fd) = true :=
        decide_eq_true ⟨fd, member, Nat.zero_le fd⟩
      simp only [State.waiting, Option.any_some, pending]
      rfl
  | skip i here inside clear =>
      refine left_loop ?_ rfl rfl rfl (pass_lt ready here inside rfl)
      have same : (∃ fd ∈ state.server.cpyReads, i + 1 ≤ fd) ↔
          ∃ fd ∈ state.server.cpyReads, i ≤ fd := by
        refine exists_congr fun fd => and_congr_right fun member => ?_
        have different : fd ≠ i := fun equal => clear (equal ▸ member)
        omega
      simp only [State.waiting, Chats.State.advance, here, Option.any_some, same]
  | accept newSockfd here small fresh unopened middle accepted =>
      obtain ⟨slot, _, rfl⟩ := Option.map_eq_some_iff.mp accepted
      refine left_lt also next rfl ?_ (waiting_of_at here) (Nat.le_add_right _ _)
        (pass_lt ready here.1 here.2.1 rfl)
      have waiting : state.server.opened < state.connected := by
        simpa [State.supplies, State.readable] using supplied
      have fewer : state.connected - (state.server.opened + 1) <
          state.connected - state.server.opened := by omega
      exact Nat.add_lt_add_right fewer _
  | serve stale received i here client inside middle served =>
      have records := Chats.records_step (Chats.reachable_serving inv.server)
        (Chats.step_of_next moved)
      cases records with
      | serve _ _ connection behind alive history opened sent =>
          exact left_lt also next rfl (work_served inv also alive history opened rfl rfl rfl)
            (waiting_of_at here) (unheard_served inv also history rfl rfl)
            (pass_lt ready here.1 here.2.1 rfl)
      | loop _ other => exact absurd rfl (other stale received)
  | finish i here past =>
      have snapshot := (Chats.reachable_serving inv.server).snapshot
      have bounded := (Chats.reachable_serving inv.server).table.bounded
      have none : ¬ ∃ fd ∈ state.server.cpyReads, i ≤ fd := by
        rintro ⟨fd, member, reached⟩
        have inside := bounded fd (snapshot i here fd member reached)
        omega
      refine left_loop ?_ rfl rfl rfl ?_
      · simp only [State.waiting, here, Option.any_some, Option.any_none, none, decide_false]
      · simp only [State.pass, here, Option.elim_some, Option.elim_none]
        exact Nat.succ_pos _

/-- Each receive of a client leaves less to do. -/
theorem left_receive (inv : Inv listener state) (also : Inv listener later) {bytes : List UInt8}
    (server : later.server = state.server) (connected : later.connected = state.connected)
    (handed : later.handed = state.handed) (ended : later.ended = state.ended)
    (heard : later.heard = Function.update state.heard client (state.heard client ++ [bytes])) :
    later.left listener < state.left listener := by
  have room := (also.heard client).length_le
  rw [heard, server, Function.update_self, List.length_append, List.length_singleton] at room
  have accepted : client < state.server.opened := by
    refine Nat.lt_of_not_le fun young => ?_
    have none := (inv.chronicle.fresh young).2.2
    rw [inv.length_sent, none] at room
    exact absurd room (by simp)
  have messages : later.unheard < state.unheard := by
    rw [State.unheard, State.unheard, connected, server, heard]
    refine Finset.sum_lt_sum (fun other _ => ?_) ⟨client, ?_, ?_⟩
    · by_cases own : other = client
      · subst own
        rw [Function.update_self, List.length_append]
        omega
      · rw [Function.update_of_ne own]
    · exact Finset.mem_range.mpr (accepted.trans_le inv.accepted)
    · rw [Function.update_self, List.length_append, List.length_singleton]
      omega
  have work : later.work = state.work := by
    simp only [State.work, State.due, connected, server, handed, ended]
  have waits : later.waiting = state.waiting := by
    rw [State.waiting, server, State.waiting]
  have pass : later.pass listener = state.pass listener := by
    rw [State.pass, server, State.pass]
  rw [State.left, State.left, work, waits, pass, connected]
  omega

end Measure

/-- The IDs fit in their slots, and with the longest ID each line fits in the buffer of a client. -/
structure Short (state : State) : Prop where
  login : ∀ client, ∀ frame ∈ (state.handed client).head?, frame.length ≤ Chats.maxId
  line : ∀ client, ∀ frame ∈ (state.handed client).tail,
    frame.length + Chats.maxId + 1 ≤ Chats.maxBuf

section Enabled
variable {listener : Nat} {user : Nat → User} {state later : State} {client : Nat}

/-- A served slot with enough room makes a step. -/
theorem exists_processed {server : Chats.State} {slot : Fin Chats.maxClient} {connection : Nat}
    (behind : server.connection (server.client slot).sockfd = some connection)
    {uid : List UInt8} (named : (server.client slot).uid.read = some uid)
    (stale : Buffer Chats.maxBuf) {received : List UInt8} (complete : whole received = true)
    (login : (server.client slot).first = false → received.length ≤ Chats.maxId)
    (line : (server.client slot).first = true → received.length ≤ Chats.maxBuf) :
    ∃ later, server.processClient slot stale received = some later := by
  rw [Chats.State.processClient, behind, Option.bind_some]
  cases first : (server.client slot).first with
  | false =>
      rw [Chats.process_login _ stale received first (login first)]
      exact ⟨_, rfl⟩
  | true =>
      by_cases ended : received = []
      · subst ended
        have process : (server.client slot).process stale [] =
            some ({ server.client slot with inUse := false },
              some (stale.write (Chats.logOut ++ [0]) Chats.logOut_fits)) := by
          simp [Chats.ClientType.process, first]
        rw [process]
        simp only [Option.bind_some, Bool.false_eq_true, if_false, Chats.State.sendToOtherClients,
          Chats.State.close, Function.update_self, named, Chats.read_logOut, Option.map_some]
        exact ⟨_, rfl⟩
      · rw [Chats.process_message _ stale received first ended (line first)]
        have heard := Chats.read_whole stale complete ended (line first)
        simp only [Option.bind_some, Function.update_eq_self]
        split <;>
          simp only [Chats.State.sendToOtherClients, Chats.State.close, named, heard,
            Option.bind_some, Option.map_some] <;>
          exact ⟨_, rfl⟩

/-- The message of a short line fits in `msg`. -/
theorem fits_of_short {slot : Fin Chats.maxClient} (here : state.server.slot = some slot)
    {uid : List UInt8} (named : (state.server.client slot).uid.read = some uid)
    (stale : Buffer Chats.maxBuf) {received : List UInt8} (complete : whole received = true)
    (line : (state.server.client slot).first = true →
      received.length + Chats.maxId + 1 ≤ Chats.maxBuf) : state.fits stale received = true := by
  rw [State.fits, here, Option.bind_some]
  cases first : (state.server.client slot).first with
  | false =>
      rw [Chats.ClientType.formats, Chats.ClientType.process, if_pos first]
      split <;> rfl
  | true =>
      have bound := line first
      have terminated : received = [] ∨ 0 ∈ received := by
        refine (of_decide_eq_true complete).imp_right fun ends => ?_
        rw [ends]
        exact List.mem_append_right _ List.mem_cons_self
      rw [Chats.formats_eq first stale received uid (by omega) named terminated, Option.all_some,
        decide_eq_true_eq, Chats.length_frame]
      have short := Buffer.length_read_lt named
      have notice : Chats.logOut.length = 13 := rfl
      have size : Chats.msgSize = Chats.maxBuf + Chats.maxId := rfl
      have large : 32 = Chats.maxId ∧ 256 = Chats.maxBuf := ⟨rfl, rfl⟩
      have text := (List.takeWhile_prefix (l := received) fun byte => byte ≠ 0).length_le
      split
      · omega
      · rw [CString.text]
        omega

/-- Nobody but the users can make a step. -/
def Quiet (listener : Nat) (user : Nat → User) (state : State) : Prop :=
  ((system listener user).restrict aligned).Stuck (fun label => label.inner = true) state

/-- A quiet server has no step. -/
theorem Quiet.server (quiet : Quiet listener user state) (label : Chats.Label)
    (allowed : Chats.permitted state.server label = true)
    (supplied : state.supplies listener label = true) :
    state.server.next listener label = none := by
  have blocked := quiet (.server label) rfl
  have permits : aligned state (.server label) = true := allowed
  simpa only [System.restrict, permits, if_true, system, State.next, supplied,
    Option.map_eq_none_iff] using blocked

/-- The kernel has a whole string for a live client with input, and it fits in its buffer. -/
theorem Inv.exists_input (inv : Inv listener state) (short : Short state)
    (alive : live client state.server.history = true)
    (input : state.toServer client ≠ [] ∨ state.ended client = true) :
    ∃ received, whole received = true ∧ state.delivers client received = true ∧
      (login client state.server.history = none → received.length ≤ Chats.maxId) ∧
      (login client state.server.history ≠ none →
        received.length + Chats.maxId + 1 ≤ Chats.maxBuf) := by
  have stopped (flow : state.toServer client = []) (ended : state.ended client = true) :
      state.delivers client [] = true :=
    decide_eq_true ⟨List.nil_prefix, fun _ => ⟨flow, ended⟩⟩
  have empty : whole [] = true := by decide
  cases inv.fed client with
  | streaming rest split flow =>
      cases rest with
      | nil =>
          have ended := input.resolve_left fun bytes => bytes flow
          exact ⟨[], empty, stopped flow ended, fun _ => Nat.zero_le _, fun _ => by decide⟩
      | cons frame others =>
          have among : frame ∈ state.handed client :=
            split ▸ List.mem_append_right _ List.mem_cons_self
          obtain ⟨complete, filled⟩ := inv.framed client frame among
          refine ⟨frame, complete, ?_, fun unknown => ?_, fun known => ?_⟩
          · refine decide_eq_true ⟨?_, fun none => absurd none filled⟩
            rw [flow, List.flatten_cons]
            exact List.prefix_append _ _
          · rw [Chats.login_eq_head?, List.head?_eq_none_iff] at unknown
            rw [unknown, List.nil_append] at split
            exact short.login client frame (by rw [split]; rfl)
          · rw [Chats.login_eq_head?, Ne, List.head?_eq_none_iff] at known
            obtain ⟨first, more, received⟩ := List.exists_cons_of_ne_nil known
            refine short.line client frame ?_
            rw [split, received, List.cons_append, List.tail_cons]
            exact List.mem_append_right _ List.mem_cons_self
  | nameless ended _ flow =>
      exact ⟨[], empty, stopped flow ended, fun _ => Nat.zero_le _, fun _ => by decide⟩
  | gone _ _ dead => cases alive.symm.trans dead

/-- The server serves a readable descriptor. -/
theorem Quiet.not_serving (quiet : Quiet listener user state) (inv : Inv listener state)
    (short : Short state) {i : Nat} (here : state.server.At i) (other : i ≠ listener) :
    state.readable listener i = false := by
  rw [Bool.eq_false_iff]
  intro readable
  obtain ⟨own, _⟩ | ⟨_, client, present, input⟩ := (readable_iff i).mp readable
  · exact other own
  have serving := Chats.reachable_serving inv.server
  obtain ⟨name, delivered⟩ := serving.delivered
  obtain ⟨slot, index, used, same⟩ := serving.table.slot serving.snapshot here other
  have behind : state.server.connection (state.server.client slot).sockfd = some client :=
    same ▸ present
  obtain ⟨received, complete, delivers, loginFits, lineFits⟩ :=
    inv.exists_input short ((delivered.live client).mpr ⟨i, present⟩) input
  have first := delivered.first slot client used behind
  obtain ⟨uid, named⟩ := Option.isSome_iff_exists.mp (delivered.readable slot)
  let stale : Buffer Chats.maxBuf := .fill Chats.maxBuf 0
  have line (spoke : (state.server.client slot).first = true) :
      received.length + Chats.maxId + 1 ≤ Chats.maxBuf :=
    lineFits (Option.isSome_iff_ne_none.mp (first.mp spoke))
  have unknown (silent : (state.server.client slot).first = false) :
      login client state.server.history = none := delivered.unknown used behind silent
  have inside : state.server.sockIdx i < Chats.maxClient := index ▸ slot.isLt
  have chosen : (⟨state.server.sockIdx i, inside⟩ : Fin Chats.maxClient) = slot := Fin.ext index
  obtain ⟨later, moved⟩ := exists_processed behind named stale complete
    (fun silent => loginFits (unknown silent)) fun spoke => by have := line spoke; omega
  have supplied : state.supplies listener (.serve stale received) = true := by
    have at' := (serving.slot here other inside).1
    rw [chosen] at at'
    rw [State.supplies, served_eq_some here.1 present, Bool.and_eq_true]
    exact ⟨delivers, fits_of_short at' named stale complete line⟩
  have blocked := quiet.server (.serve stale received) complete supplied
  rw [Chats.State.next, here.1, Option.bind_some, if_pos ⟨here, other⟩, dif_pos inside, chosen,
    moved] at blocked
  cases blocked

/-- Each slot in use has its own connection. -/
theorem card_used_le {server : Chats.State} (table : Chats.Table listener server) :
    (Finset.univ.filter fun slot => (server.client slot).inUse = true).card ≤ server.opened := by
  rw [← Finset.card_range server.opened]
  refine Finset.card_le_card_of_injOn
    (fun slot => (server.connection (server.client slot).sockfd).getD 0) ?_ ?_
  · intro slot member
    obtain ⟨_, used⟩ := Finset.mem_filter.mp member
    obtain ⟨connection, present⟩ := table.opened slot used
    simp only [present, Option.getD_some]
    exact Finset.mem_coe.mpr (Finset.mem_range.mpr (table.young _ _ present))
  · intro first member second also same
    obtain ⟨_, used⟩ := Finset.mem_filter.mp member
    obtain ⟨_, inUse⟩ := Finset.mem_filter.mp also
    obtain ⟨connection, present⟩ := table.opened first used
    obtain ⟨other, there⟩ := table.opened second inUse
    simp only [present, there, Option.getD_some] at same
    subst same
    exact table.distinct first second used inUse (table.single _ _ _ present there)

/-- There is a descriptor for a new connection. -/
theorem exists_newSockfd {server : Chats.State} (table : Chats.Table listener server) :
    ∃ newSockfd, newSockfd < Chats.maxSock ∧ newSockfd ≠ listener ∧
      server.connection newSockfd = none := by
  have fewer : (insert listener (Finset.univ.image fun slot => (server.client slot).sockfd)).card <
      (Finset.range Chats.maxSock).card := by
    refine (Finset.card_insert_le _ _).trans_lt ?_
    have most := Finset.card_image_le (s := Finset.univ)
      (f := fun slot => (server.client slot).sockfd)
    rw [Finset.card_univ, Fintype.card_fin] at most
    rw [Finset.card_range]
    exact (Nat.succ_le_succ most).trans_lt (by decide)
  obtain ⟨newSockfd, below, fresh⟩ := Finset.exists_mem_notMem_of_card_lt_card fewer
  rw [Finset.mem_insert, not_or] at fresh
  refine ⟨newSockfd, Finset.mem_range.mp below, fresh.1, ?_⟩
  cases present : server.connection newSockfd with
  | none => rfl
  | some connection =>
      obtain ⟨slot, _, same⟩ := table.owned newSockfd connection present
      exact absurd (Finset.mem_image.mpr ⟨slot, Finset.mem_univ _, same⟩) fresh.2

/-- The server accepts a waiting connection. -/
theorem Quiet.not_accepting (quiet : Quiet listener user state) (inv : Inv listener state)
    (few : state.connected ≤ Chats.maxClient) (here : state.server.At listener) :
    state.readable listener listener = false := by
  rw [Bool.eq_false_iff]
  intro readable
  have waiting : state.server.opened < state.connected := by
    simpa [State.readable] using readable
  have table := (Chats.reachable_serving inv.server).table
  have room := (card_used_le table).trans_lt (waiting.trans_le few)
  obtain ⟨newSockfd, small, fresh, unopened⟩ := exists_newSockfd table
  have blocked := quiet.server (.accept newSockfd) (decide_eq_true room) readable
  rw [Chats.State.next, if_pos ⟨here, small, fresh, unopened⟩, Option.map_eq_none_iff,
    Chats.State.accept, Option.map_eq_none_iff, Chats.getID_eq_none] at blocked
  have full : (Finset.univ.filter fun slot => (state.server.client slot).inUse = true) =
      Finset.univ := Finset.filter_true_of_mem fun slot _ => blocked slot
  rw [full, Finset.card_univ, Fintype.card_fin] at room
  exact absurd room (Nat.lt_irrefl _)

/-- A quiet server waits in `select`. -/
theorem Quiet.between (quiet : Quiet listener user state) (inv : Inv listener state)
    (ready : Ready listener state) (few : state.connected ≤ Chats.maxClient) (short : Short state) :
    state.server.pass = none := by
  cases here : state.server.pass with
  | none => rfl
  | some i =>
      by_cases past : state.server.fdMax < i
      · have blocked := quiet.server .finish rfl rfl
        rw [Chats.State.next, here, Option.bind_some, if_pos past] at blocked
        cases blocked
      by_cases set : i ∈ state.server.cpyReads
      · have readable := ready.readable i here i set le_rfl
        have at' : state.server.At i := ⟨here, Nat.le_of_not_lt past, set⟩
        by_cases own : i = listener
        · rw [own] at at' readable
          cases (quiet.not_accepting inv few at').symm.trans readable
        · cases (quiet.not_serving inv short at' own).symm.trans readable
      · have blocked := quiet.server .skip rfl rfl
        rw [Chats.State.next, here, Option.bind_some,
          if_pos ⟨Nat.le_of_not_lt past, set⟩] at blocked
        cases blocked

/-- A quiet server has no readable descriptor. -/
theorem Quiet.unreadable (quiet : Quiet listener user state) (inv : Inv listener state)
    (between : state.server.pass = none) {fd : Nat} (member : fd ∈ state.server.reads) :
    state.readable listener fd = false := by
  rw [Bool.eq_false_iff]
  intro readable
  have table := (Chats.reachable_serving inv.server).table
  have blocked := quiet.server (.select {fd}) rfl (by
    refine decide_eq_true fun other same => ?_
    rw [Finset.mem_singleton.mp same]
    exact readable)
  rw [Chats.State.next, if_pos] at blocked
  · cases blocked
  · refine ⟨between, Finset.singleton_nonempty fd, Finset.singleton_subset_iff.mpr member, ?_⟩
    intro other same
    rw [Finset.mem_singleton.mp same]
    exact table.bounded fd member

/-- What a client says leaves room for an ID. -/
theorem Short.length_le (short : Short state) (framed : Framed (state.handed client))
    {string : List UInt8} (said : string ∈ state.speech client) :
    string.length + Chats.maxId + 2 ≤ Chats.maxBuf := by
  rcases List.mem_append.mp said with line | notice
  · obtain ⟨frame, member, rfl⟩ := List.mem_map.mp line
    have bound := short.line client frame member
    obtain ⟨complete, filled⟩ := framed frame (List.mem_of_mem_tail member)
    have ends := congrArg List.length (Chats.whole_nonempty complete filled)
    rw [List.length_append, List.length_singleton] at ends
    omega
  · split at notice
    case isTrue =>
      rw [List.mem_singleton.mp notice]
      decide
    case isFalse => cases notice

/-- A quiet client has received all that was sent to it. -/
theorem Quiet.drained (quiet : Quiet listener user state) (inv : Inv listener state)
    (short : Short state) (runs : state.ended client = false)
    (logged : state.handed client ≠ []) : state.toClient client = [] := by
  obtain ⟨others, split⟩ := inv.heard client
  have rest : state.toClient client = others.flatten := by
    rw [State.toClient, ← split, List.flatten_append, List.drop_left]
  cases others with
  | nil => exact rest
  | cons msg more =>
      have member : msg ∈ state.server.sent client :=
        split ▸ List.mem_append_right _ List.mem_cons_self
      obtain ⟨complete, filled⟩ := (inv.sends client msg member).whole
      have blocked := quiet (.receive client msg) rfl
      have permits : aligned state (.receive client msg) = true := complete
      simp only [System.restrict, permits, if_true, system, State.next, ite_eq_right_iff] at blocked
      have bound : msg.length ≤ Chatc.maxBuf := by
        obtain ⟨uid, string, rfl, ⟨_, small⟩, _, sender, said⟩ := inv.sends client msg member
        have room := short.length_le (inv.framed sender)
          (((inv.fed sender).begins (inv.framed sender)).subset said)
        have size : Chatc.maxBuf = Chats.maxBuf := rfl
        rw [Chats.length_frame]
        omega
      cases blocked ⟨runs, logged, filled, bound, by
        rw [rest, List.flatten_cons]
        exact List.prefix_append _ _⟩

/-- When nobody but the users can make a step, all that was said has arrived. -/
theorem Quiet.settled (quiet : Quiet listener user state) (inv : Inv listener state)
    (ready : Ready listener state) (few : state.connected ≤ Chats.maxClient) (short : Short state) :
    state.Settled := by
  have serving := Chats.reachable_serving inv.server
  obtain ⟨_, delivered⟩ := serving.delivered
  have between := quiet.between inv ready few short
  have still {fd client : Nat} (present : state.server.connection fd = some client) :
      state.toServer client = [] ∧ state.ended client = false := by
    obtain ⟨slot, used, rfl⟩ := serving.table.owned fd client present
    have member := (serving.table.reads _).mpr (.inr ⟨slot, used, rfl⟩)
    have unreadable := quiet.unreadable inv between member
    rw [Bool.eq_false_iff, Ne, readable_iff, not_or] at unreadable
    have none := not_exists.mp (not_and.mp unreadable.2 (serving.table.apart slot used)) client
    rw [not_and, not_or, not_not, Bool.not_eq_true] at none
    exact none present
  have accepted : state.server.opened = state.connected := by
    have member := (serving.table.reads listener).mpr (.inl rfl)
    have unreadable := quiet.unreadable inv between member
    rw [State.readable, if_pos rfl, decide_eq_false_iff_not] at unreadable
    exact Nat.le_antisymm inv.accepted (Nat.le_of_not_lt unreadable)
  refine ⟨accepted, fun client => ?_, fun fd client present => ?_⟩
  · cases inv.fed client with
    | streaming rest split flow open' =>
        by_cases inside : client < state.server.opened
        · obtain ⟨fd, present⟩ := (delivered.live client).mp (open' inside)
          exact (still present).1
        · have young := inv.young client (accepted ▸ Nat.le_of_not_lt inside)
          rw [young.1] at split
          have none := (List.append_eq_nil_iff.mp split.symm).2
          rw [flow, none]
          rfl
    | nameless _ _ flow => exact flow
    | gone _ flow => exact flow
  · have runs := (still present).2
    exact ⟨runs, fun logged => quiet.drained inv short runs logged⟩

end Enabled

section Drain
variable {listener : Nat} {user : Nat → User} {state final : State}

/-- Each run of the server and of the receiving clients does some of the work that is left. -/
theorem length_run (reached : ((system listener user).restrict aligned).Reachable state)
    (labels : List Label) (inner : ∀ label ∈ labels, label.inner = true)
    (run : ((system listener user).restrict aligned).run state labels = some final) :
    labels.length + final.left listener ≤ state.left listener ∧
      final.connected = state.connected ∧ final.handed = state.handed := by
  induction labels generalizing state with
  | nil =>
      cases run
      exact ⟨(Nat.zero_add _).le, rfl, rfl⟩
  | cons label rest inductionHypothesis =>
      obtain ⟨later, taken, continued⟩ := (System.run_cons _ state final label rest).mp run
      obtain ⟨allowed, moved⟩ := (System.restrict_next _ _ _ _ _).mp taken
      have inv := reachable_inv reached
      have after := reached.step label taken
      obtain ⟨less, connected, handed⟩ := inductionHypothesis after
        (fun other member => inner other (.tail _ member)) continued
      have works := inner label List.mem_cons_self
      have step : later.left listener < state.left listener ∧
          later.connected = state.connected ∧ later.handed = state.handed := by
        cases step_of_next moved with
        | server inside supplied server goes =>
            exact ⟨left_server inv (reachable_ready reached) allowed supplied goes, rfl, rfl⟩
        | connect => cases works
        | send => cases works
        | close => cases works
        | receive client bytes =>
            exact ⟨left_receive inv (reachable_inv after) rfl rfl rfl rfl rfl, rfl, rfl⟩
      refine ⟨?_, connected.trans step.2.1, handed.trans step.2.2⟩
      rw [List.length_cons]
      omega

/-- From each state of the aligned runs with room for the clients and with short lines, each run of the server and of the receiving clients ends, and when it cannot go on, all that was said has arrived. -/
theorem drains (reached : ((system listener user).restrict aligned).Reachable state)
    (few : state.connected ≤ Chats.maxClient) (short : Short state) (labels : List Label)
    (inner : ∀ label ∈ labels, label.inner = true)
    (run : ((system listener user).restrict aligned).run state labels = some final) :
    labels.length ≤ state.left listener ∧ (Quiet listener user final → final.Settled) := by
  obtain ⟨bound, connected, handed⟩ := length_run reached labels inner run
  refine ⟨Nat.le_of_add_right_le bound, fun quiet => ?_⟩
  have after := reached.run labels run
  refine quiet.settled (reachable_inv after) (reachable_ready after) (connected ▸ few) ?_
  exact ⟨fun client => handed ▸ short.login client, fun client => handed ▸ short.line client⟩

/-- A user has typed the ID `A`, and the server accepts its connection and stores the ID. -/
theorem drains_login :
    let user (_ : Nat) : User := ⟨[65, 10], .fill _ 0, .fill _ 0, .fill _ 0⟩
    ∃ state final : State, receives 0 state.server.history = [] ∧
      receives 0 final.server.history = [[65, 0]] ∧ 14 ≤ state.left 3 ∧
      (Quiet 3 user final → final.Settled) := by
  intro user
  let state : State := { start (Chats.start 3 fun _ => 0) with
    connected := 1
    handed := Function.update (fun _ => []) 0 [[65, 0]]
    toServer := Function.update (fun _ => []) 0 [65, 0] }
  have reached : ((system 3 user).restrict aligned).Reachable state :=
    System.reachable_of_run _ ⟨_, ⟨fun _ => 0, rfl⟩, rfl⟩ [.connect, .send 0] rfl
  have short : Short state := by
    refine ⟨fun client frame member => ?_, fun client frame member => ?_⟩
    · by_cases own : client = 0
      · simp only [state, own, Function.update_self] at member
        cases member
        decide
      · simp [state, own] at member
    · by_cases own : client = 0 <;> simp [state, own] at member
  let labels : List Label := ([.select {3}, .skip, .skip, .skip, .accept 4, .skip, .finish,
    .select {4}, .skip, .skip, .skip, .skip, .serve (.fill _ 0) [65, 0], .finish] :
    List Chats.Label).map .server
  obtain ⟨final, run, heard⟩ := (Option.any_eq_true _ _).mp (by decide +kernel :
    (((system 3 user).restrict aligned).run state labels).any
      (fun final => decide (receives 0 final.server.history = [[65, 0]])) = true)
  have ends := drains reached (by decide) short labels (by decide) run
  exact ⟨state, final, rfl, of_decide_eq_true heard, ends.1, ends.2⟩

end Drain

end Chat

/-
This file proves what the clients of the message queue get, and when the server cannot reply.
-/

import LinuxSystemProgramming.Construction.Msgq
import LinuxSystemProgramming.Library.Tally

namespace Msgq
open Transition MessageQueue

variable {Client Text : Type} [DecidableEq Client] {limit : Nat} {request : Client → Text}
  {reply : Text} {state later : State Client Text}

/-- The queue exists while the server is in front of these calls. -/
def ServerPoint.serving : ServerPoint → Bool
  | .msgrcv | .msgsnd | .msgctl => true
  | _ => false

/-- The server has received a request. -/
def ServerPoint.asked : ServerPoint → Bool
  | .msgsnd | .msgctl | .returned => true
  | _ => false

omit [DecidableEq Client] in
/-- The queue holds the requests that are not received, and the reply until a client has printed it. -/
structure Holds (request : Client → Text) (reply : Text) (state : State Client Text)
    (queue : List (Message Text)) : Prop where
  requests : texts msgRequest queue =
    (state.sent.map request).drop (state.server.asked.toNat)
  replies : texts msgReply queue = [] ∨ texts msgReply queue = [reply] ∧ state.server = .msgctl ∧
    ∀ client text, state.client client ≠ .printed text
  length : queue.length = (texts msgRequest queue).length + (texts msgReply queue).length

omit [DecidableEq Client] in
/-- These facts hold in every reachable state. -/
structure Inv (request : Client → Text) (reply : Text) (state : State Client Text) : Prop where
  present : state.queue.isSome = state.server.serving
  alive : state.server ≠ .exited
  holds : ∀ queue, state.queue = some queue → Holds request reply state queue
  received : state.received = if state.server.asked then (state.sent.map request).head? else none
  asked : state.server.asked = true → state.sent ≠ []
  nodup : state.sent.Nodup
  fresh : ∀ client, state.client client = .msgget ∨ state.client client = .msgsnd →
    client ∉ state.sent
  sends : ∀ client, state.client client = .msgrcv → client ∈ state.sent
  early : state.server = .msgget → state.sent = []
  printed : ∀ client text, state.client client = .printed text →
    text = reply ∧ client ∈ state.sent ∧ (state.server = .msgctl ∨ state.server = .returned)
  single : ∀ first second text other, state.client first = .printed text →
    state.client second = .printed other → first = second

omit [DecidableEq Client] in
theorem inv_start : Inv request reply (start : State Client Text) := by
  constructor
  all_goals simp [start, ServerPoint.serving, ServerPoint.asked]

omit [DecidableEq Client] in
/-- The server serves while the queue exists. -/
theorem Inv.serving (inv : Inv request reply state) {queue : List (Message Text)}
    (present : state.queue = some queue) : state.server.serving = true := by
  rw [← inv.present, present]
  rfl

omit [DecidableEq Client] in
/-- No client has printed a text before the reply is sent. -/
theorem Inv.unprinted (inv : Inv request reply state) (first : state.server ≠ .msgctl)
    (second : state.server ≠ .returned) (client : Client) (text : Text) :
    state.client client ≠ .printed text := by
  intro there
  rcases (inv.printed client text there).2.2 with ended | ended
  · exact first ended
  · exact second ended

omit [DecidableEq Client] in
/-- There is no reply in the queue before the reply is sent. -/
theorem Holds.silent {queue : List (Message Text)} (holds : Holds request reply state queue)
    (here : state.server ≠ .msgctl) : texts msgReply queue = [] := by
  rcases holds.replies with silent | ⟨_, other, _⟩
  · exact silent
  · exact absurd other here

omit [DecidableEq Client] in
/-- Each step of the server keeps the facts. -/
theorem inv_serverStep (inv : Inv request reply state)
    (step : ServerStep limit reply state later) : Inv request reply later := by
  have received := inv.received
  cases step with
  | msgget here =>
      have absent : state.queue = none := by
        have present := inv.present
        rw [here] at present
        exact Option.isSome_eq_false_iff.mp present |> Option.isNone_iff_eq_none.mp
      have empty := inv.early here
      rw [here] at received
      refine { inv with
        present := rfl, alive := nofun, received, asked := nofun, early := nofun
        holds := ?_, printed := ?_ }
      · intro queue same
        rw [absent] at same
        cases same
        refine ⟨?_, .inl rfl, rfl⟩
        rw [empty]
        rfl
      · intro client text there
        exact absurd there (inv.unprinted (by simp [here]) (by simp [here]) client text)
  | msgrcv here queue rest text present taken =>
      obtain ⟨requests, replies, length⟩ := inv.holds queue present
      have first := texts_of_receive taken
      have others := texts_other taken (show msgReply ≠ msgRequest by decide)
      have shorter := length_receive taken
      rw [here] at requests
      have sent : state.sent.map request = text :: texts msgRequest rest := by
        rw [← first, requests]
        rfl
      have silent := (inv.holds queue present).silent (by simp [here])
      refine { inv with
        present := rfl, alive := nofun, early := nofun, received := ?_, asked := ?_, holds := ?_
        printed := ?_ }
      · rintro _ ⟨⟩
        refine ⟨?_, .inl (others.trans silent), ?_⟩
        · rw [sent]
          rfl
        · rw [first, List.length_cons] at length
          rw [others]
          omega
      · rw [sent]
        rfl
      · rintro _ empty
        rw [empty] at sent
        cases sent
      · intro client text there
        exact absurd there (inv.unprinted (by simp [here]) (by simp [here]) client text)
  | msgsnd here queue present room =>
      obtain ⟨requests, replies, length⟩ := inv.holds queue present
      have quiet := inv.unprinted (by simp [here]) (by simp [here])
      have silent := (inv.holds queue present).silent (by simp [here])
      have asked := inv.asked
      rw [here] at received requests asked
      refine { inv with
        present := rfl, alive := nofun, early := nofun, received, asked, holds := ?_
        printed := fun client text here' => absurd here' (quiet client text) }
      rintro _ ⟨⟩
      refine ⟨?_, .inr ⟨?_, rfl, quiet⟩, ?_⟩
      · rw [texts_append, requests]
        exact List.append_nil _
      · rw [texts_append, silent]
        rfl
      · rw [texts_append, texts_append, List.length_append, List.length_append, List.length_append,
          length]
        exact Nat.add_assoc _ _ _
  | msgctl here queue present =>
      have asked := inv.asked
      rw [here] at received asked
      refine { inv with
        present := rfl, alive := nofun, early := nofun, received, asked, holds := nofun
        printed := ?_ }
      intro client text here'
      obtain ⟨same, sent, _⟩ := inv.printed client text here'
      exact ⟨same, sent, .inr rfl⟩
  | fail here absent =>
      have present := inv.present
      rw [absent] at present
      rcases here with here | here | here <;> rw [here] at present <;> cases present

/-- A client that goes to another point is not at this one. -/
theorem client_of_goto {client other : Client} {point here : ClientPoint Text}
    (there : (state.goto client point).client other = here) (moved : point ≠ here) :
    other ≠ client ∧ state.client other = here := by
  have updated : Function.update state.client client point other = here := there
  rw [Function.update_apply] at updated
  split at updated
  case isTrue => exact absurd updated moved
  case isFalse different => exact ⟨different, updated⟩

/-- The client is at the point that it goes to. -/
theorem client_goto (state : State Client Text) (client : Client) (point : ClientPoint Text) :
    (state.goto client point).client client = point := by
  simp [State.goto]

/-- A reply that no client has printed stays so when a client goes to another call. -/
theorem replies_goto {queue : List (Message Text)} (client : Client) {point : ClientPoint Text}
    (replies : texts msgReply queue = [] ∨ texts msgReply queue = [reply] ∧
      state.server = .msgctl ∧ ∀ client text, state.client client ≠ .printed text)
    (plain : ∀ text, point ≠ .printed text) :
    texts msgReply queue = [] ∨ texts msgReply queue = [reply] ∧ state.server = .msgctl ∧
      ∀ other text, (state.goto client point).client other ≠ .printed text :=
  replies.imp_right fun ⟨one, there, quiet⟩ =>
    ⟨one, there, fun other text here => quiet other text (client_of_goto here (plain text)).2⟩

omit [DecidableEq Client] in
/-- A later request does not change the first one. -/
theorem received_append (inv : Inv request reply state) (client : Client) :
    state.received =
      if state.server.asked then ((state.sent ++ [client]).map request).head? else none := by
  rw [inv.received]
  cases before : state.server.asked with
  | false => rfl
  | true =>
      obtain ⟨first, rest, same⟩ := List.exists_cons_of_ne_nil (inv.asked before)
      rw [same]
      rfl

omit [DecidableEq Client] in
/-- A later request goes behind the others. -/
theorem requests_append (inv : Inv request reply state) (client : Client)
    {queue : List (Message Text)}
    (requests : texts msgRequest queue = (state.sent.map request).drop state.server.asked.toNat) :
    texts msgRequest (queue ++ [⟨msgRequest, request client⟩]) =
      ((state.sent ++ [client]).map request).drop state.server.asked.toNat := by
  have prefixed : state.server.asked.toNat ≤ (state.sent.map request).length := by
    cases before : state.server.asked with
    | false => exact Nat.zero_le _
    | true =>
        rw [List.length_map]
        exact List.length_pos_iff.mpr (inv.asked before)
  rw [List.map_append, List.drop_append_of_le_length prefixed, texts_append, requests]
  rfl

/-- At most one client has printed a text when another goes to a call or exits. -/
theorem Inv.single_goto (inv : Inv request reply state) (client : Client)
    {point : ClientPoint Text} (plain : ∀ text, point ≠ .printed text)
    (first second : Client) (text other : Text)
    (there : (state.goto client point).client first = .printed text)
    (same : (state.goto client point).client second = .printed other) : first = second :=
  inv.single first second text other (client_of_goto there (plain text)).2
    (client_of_goto same (plain other)).2

/-- The request of a client goes behind the others. -/
theorem Inv.msgsnd (inv : Inv request reply state) {client : Client}
    (here : state.client client = .msgsnd) {queue : List (Message Text)}
    (present : state.queue = some queue) :
    Inv request reply { state.goto client .msgrcv with
      queue := some (queue ++ [⟨msgRequest, request client⟩])
      sent := state.sent ++ [client] } := by
  have own : client ∉ state.sent := inv.fresh client (.inr here)
  have serving := inv.serving present
  obtain ⟨requests, replies, length⟩ := inv.holds queue present
  have silent : texts msgReply (queue ++ [⟨msgRequest, request client⟩]) =
      texts msgReply queue := by
    rw [texts_append]
    exact List.append_nil _
  refine { inv with
    present := inv.present ▸ present ▸ rfl, received := received_append inv client
    holds := ?_, asked := ?_, nodup := ?_, fresh := ?_, sends := ?_, early := ?_
    printed := ?_, single := inv.single_goto client nofun }
  · rintro _ ⟨⟩
    refine ⟨requests_append inv client requests, ?_, ?_⟩
    · rw [silent]
      exact replies_goto client replies nofun
    · rw [silent, texts_append, List.length_append, List.length_append, length]
      exact Nat.add_right_comm _ _ _
  · intro _ empty
    exact List.append_ne_nil_of_right_ne_nil _ (List.cons_ne_nil client []) empty
  · rw [List.nodup_append]
    refine ⟨inv.nodup, List.nodup_singleton client, ?_⟩
    rintro first member second one rfl
    exact own (List.mem_singleton.mp one ▸ member)
  · intro other there member
    have before : other ≠ client ∧ other ∉ state.sent := by
      rcases there with there | there
      · obtain ⟨different, before⟩ := client_of_goto there nofun
        exact ⟨different, inv.fresh other (.inl before)⟩
      · obtain ⟨different, before⟩ := client_of_goto there nofun
        exact ⟨different, inv.fresh other (.inr before)⟩
    rcases List.mem_append.mp member with member | member
    · exact before.2 member
    · exact before.1 (List.mem_singleton.mp member)
  · intro other there
    by_cases same : other = client
    · exact List.mem_append_right _ (List.mem_singleton.mpr same)
    · have before : state.client other = .msgrcv := by simpa [State.goto, same] using there
      exact List.mem_append_left _ (inv.sends other before)
  · intro early
    have early : state.server = .msgget := early
    rw [early] at serving
    cases serving
  · intro other text there
    obtain ⟨same, member, ended⟩ := inv.printed other text (client_of_goto there nofun).2
    exact ⟨same, List.mem_append_left _ member, ended⟩

/-- A client takes the one reply of the server, and no other client has printed a text. -/
theorem Inv.msgrcv (inv : Inv request reply state) {client : Client}
    (here : state.client client = .msgrcv) {queue rest : List (Message Text)} {text : Text}
    (present : state.queue = some queue) (taken : receive msgReply queue = some (text, rest)) :
    Inv request reply { state.goto client (.printed text) with queue := some rest } := by
  obtain ⟨requests, replies, length⟩ := inv.holds queue present
  have first := texts_of_receive taken
  have others := texts_other taken (show msgRequest ≠ msgReply by decide)
  have shorter := length_receive taken
  obtain ⟨one, server, quiet⟩ := replies.resolve_left (by rw [first]; exact nofun)
  have found : text = reply ∧ texts msgReply rest = [] := by
    rw [first] at one
    exact List.cons.inj one
  have only {other : Client} {printed : Text}
      (there : (state.goto client (.printed text)).client other = .printed printed) :
      other = client := by
    by_contra different
    have before : state.client other = .printed printed := by
      simpa [State.goto, different] using there
    exact quiet other printed before
  refine { inv with
    present := inv.present ▸ present ▸ rfl, holds := ?_, fresh := ?_, sends := ?_
    printed := ?_, single := ?_ }
  · rintro _ ⟨⟩
    refine ⟨others.trans requests, .inl found.2, ?_⟩
    rw [first, List.length_cons] at length
    rw [others]
    omega
  · rintro other (there | there)
    · exact inv.fresh other (.inl (client_of_goto there nofun).2)
    · exact inv.fresh other (.inr (client_of_goto there nofun).2)
  · exact fun other there => inv.sends other (client_of_goto there nofun).2
  · intro other printed there
    obtain rfl := only there
    have same : ClientPoint.printed text = ClientPoint.printed printed :=
      (client_goto state other _).symm.trans there
    exact ⟨(ClientPoint.printed.inj same).symm.trans found.1, inv.sends other here, .inl server⟩
  · exact fun first second _ _ there same => (only there).trans (only same).symm

/-- Each step of a client keeps the facts. -/
theorem inv_clientStep (inv : Inv request reply state) {client : Client}
    (step : ClientStep limit request state client later) : Inv request reply later := by
  cases step with
  | msgget here queue present =>
      refine { inv with
        holds := ?_, fresh := ?_, sends := ?_, printed := ?_
        single := inv.single_goto client nofun }
      · intro other same
        obtain ⟨requests, replies, length⟩ := inv.holds other same
        exact ⟨requests, replies_goto client replies nofun, length⟩
      · intro other there
        by_cases same : other = client
        · exact same ▸ inv.fresh client (.inl here)
        · have before : state.client other = .msgget ∨ state.client other = .msgsnd := by
            simpa [State.goto, same] using there
          exact inv.fresh other before
      · exact fun other there => inv.sends other (client_of_goto there nofun).2
      · exact fun other text there => inv.printed other text (client_of_goto there nofun).2
  | msgsnd here queue present => exact inv.msgsnd here present
  | msgrcv here queue rest text present taken => exact inv.msgrcv here present taken
  | fail here absent =>
      refine { inv with
        holds := ?_, fresh := ?_, sends := ?_, printed := ?_
        single := inv.single_goto client nofun }
      · intro queue same
        cases absent.symm.trans same
      · rintro other (there | there)
        · exact inv.fresh other (.inl (client_of_goto there nofun).2)
        · exact inv.fresh other (.inr (client_of_goto there nofun).2)
      · exact fun other there => inv.sends other (client_of_goto there nofun).2
      · exact fun other text there => inv.printed other text (client_of_goto there nofun).2

/-- The facts hold in every reachable state. -/
theorem reachable_inv (reached : (system limit request reply).Reachable state) :
    Inv request reply state := by
  refine reached.invariant (Inv request reply) ?_ ?_
  · rintro _ rfl
    exact inv_start
  · intro state label later _ inv taken
    cases label with
    | server => exact inv_serverStep inv (step_of_serverStep limit reply taken)
    | client client => exact inv_clientStep inv (step_of_clientStep limit request taken)

/-- A client sends only if the queue has room for a message. -/
theorem reachable_room (reached : (system limit request reply).Reachable state)
    (sent : state.sent ≠ []) : 0 < limit := by
  refine reached.invariant (fun state => state.sent ≠ [] → 0 < limit) ?_ ?_ sent
  · rintro _ rfl sent
    exact absurd rfl sent
  · intro state label later _ before taken sent
    cases label with
    | server =>
        cases step_of_serverStep limit reply taken <;> exact before sent
    | client client =>
        cases step_of_clientStep limit request taken with
        | msgsnd _ queue _ room => exact Nat.zero_lt_of_lt room
        | msgget | msgrcv | fail => exact before sent

/-- The server prints the request of the first sender. At most one client prints a text, and it is the reply to this request. -/
theorem replies_once (reached : (system limit request reply).Reachable state) :
    (∀ text, state.received = some text ↔
      state.server.asked = true ∧ ∃ client rest,
        state.sent = client :: rest ∧ text = request client) ∧
    (∀ client text, state.client client = .printed text →
      text = reply ∧ client ∈ state.sent ∧ state.server.asked = true) ∧
    ∀ first second text other, state.client first = .printed text →
      state.client second = .printed other → first = second := by
  have inv := reachable_inv reached
  refine ⟨fun text => ?_, ?_, inv.single⟩
  · rw [inv.received]
    cases asked : state.server.asked with
    | false => simp
    | true =>
        obtain ⟨client, rest, same⟩ := List.exists_cons_of_ne_nil (inv.asked asked)
        simp [same, eq_comm]
  · intro client text here
    obtain ⟨same, member, ended⟩ := inv.printed client text here
    refine ⟨same, member, ?_⟩
    rcases ended with ended | ended <;> rw [ended] <;> rfl

/-- The server has printed the first of two requests, and one client prints the reply. -/
theorem replies_once_two : ∃ state : State (Fin 2) Nat,
    (system 2 Fin.val 7).Reachable state ∧ state.received = some 1 ∧
      state.client 0 = .printed 7 ∧ state.client 1 = .msgrcv ∧
      ∀ first second text other, state.client first = .printed text →
        state.client second = .printed other → first = second := by
  have reached := (system 2 Fin.val 7).reachable_of_run
    (show (system 2 Fin.val 7).initial (start : State (Fin 2) Nat) from rfl)
    [.server, .client 1, .client 0, .client 1, .client 0, .server, .server, .client 0] rfl
  exact ⟨_, reached, rfl, rfl, rfl, (replies_once reached).2.2⟩

section Progress
variable [Fintype Client]

/-- The number of calls that the server has left. -/
def ServerPoint.calls : ServerPoint → Nat
  | .msgget => 4
  | .msgrcv => 3
  | .msgsnd => 2
  | .msgctl => 1
  | .returned | .exited => 0

/-- The number of calls that a client has left. -/
def ClientPoint.calls : ClientPoint Text → Nat
  | .msgget => 3
  | .msgsnd => 2
  | .msgrcv => 1
  | .printed _ | .exited => 0

/-- The calls that are left become fewer when a client goes forward. -/
theorem calls_goto {client : Client} {point : ClientPoint Text}
    (fewer : point.calls < (state.client client).calls) :
    Tally.total ClientPoint.calls (state.goto client point).client <
      Tally.total ClientPoint.calls state.client := by
  have change := Tally.total_update ClientPoint.calls state.client client point
  have same : (state.goto client point).client =
      Function.update state.client client point := rfl
  rw [same]
  omega

/-- Each step of a client uses a call and keeps the point of the server. -/
theorem calls_clientStep {client : Client} (step : ClientStep limit request state client later) :
    Tally.total ClientPoint.calls later.client < Tally.total ClientPoint.calls state.client ∧
      later.server = state.server := by
  cases step with
  | msgget here =>
      refine ⟨calls_goto ?_, rfl⟩
      rw [here]
      exact Nat.lt_succ_self 2
  | msgsnd here =>
      have fewer : (ClientPoint.msgrcv : ClientPoint Text).calls <
          (state.client client).calls := by
        rw [here]
        exact Nat.lt_succ_self 1
      exact ⟨calls_goto fewer, rfl⟩
  | msgrcv here _ _ text =>
      have fewer : (ClientPoint.printed text).calls < (state.client client).calls := by
        rw [here]
        exact Nat.zero_lt_one
      exact ⟨calls_goto fewer, rfl⟩
  | fail here =>
      refine ⟨calls_goto ?_, rfl⟩
      cases there : state.client client with
      | msgget | msgsnd | msgrcv => exact Nat.succ_pos _
      | printed | exited =>
          rw [there] at here
          cases here

omit [Fintype Client] [DecidableEq Client] in
/-- Each step of the server uses a call and keeps the clients. -/
theorem calls_serverStep (step : ServerStep limit reply state later) :
    later.server.calls < state.server.calls ∧ later.client = state.client := by
  cases step with
  | msgget here | msgrcv here | msgsnd here | msgctl here =>
      refine ⟨?_, rfl⟩
      rw [here]
      exact Nat.lt_succ_self _
  | fail here =>
      refine ⟨?_, rfl⟩
      rcases here with here | here | here <;> rw [here] <;> exact Nat.succ_pos _

/-- The clients go forward until each one waits or has ended. -/
theorem exists_clients_stuck (limit : Nat) (request : Client → Text) (reply : Text)
    (state : State Client Text) :
    ∃ labels final, (system limit request reply).run state labels = some final ∧
      final.server = state.server ∧
      ∀ client, (system limit request reply).next final (.client client) = none := by
  induction measured : Tally.total ClientPoint.calls state.client using Nat.strong_induction_on
    generalizing state with
  | h left inductionHypothesis =>
      by_cases free : ∃ client later,
          (system limit request reply).next state (.client client) = some later
      · obtain ⟨client, later, taken⟩ := free
        obtain ⟨fewer, same⟩ := calls_clientStep (step_of_clientStep limit request taken)
        obtain ⟨labels, final, run, server, stuck⟩ :=
          inductionHypothesis _ (measured ▸ fewer) later rfl
        exact ⟨.client client :: labels, final, (System.run_cons _ _ _ _ _).mpr
          ⟨later, taken, run⟩, server.trans same, stuck⟩
      · refine ⟨[], state, rfl, rfl, fun client => ?_⟩
        exact Option.eq_none_iff_forall_ne_some.mpr fun later taken => free ⟨client, later, taken⟩

omit [Fintype Client] in
/-- A client without a step has ended, or waits for room or for a reply. -/
theorem client_blocked {client : Client}
    (blocked : state.clientStep limit request client = none) :
    (state.client client).ended = true ∨ ∃ queue, state.queue = some queue ∧
      (state.client client = .msgsnd ∧ limit ≤ queue.length ∨
        state.client client = .msgrcv ∧ texts msgReply queue = []) := by
  rw [State.clientStep] at blocked
  cases here : state.client client with
  | printed | exited => exact .inl rfl
  | msgget =>
      rw [here] at blocked
      cases present : state.queue <;> rw [present] at blocked <;> cases blocked
  | msgsnd =>
      rw [here] at blocked
      cases present : state.queue with
      | none =>
          rw [present] at blocked
          cases blocked
      | some queue =>
          simp only [present, Option.map_eq_none_iff, send, ite_eq_right_iff, reduceCtorEq,
            imp_false, Nat.not_lt] at blocked
          exact .inr ⟨queue, rfl, .inl ⟨rfl, blocked⟩⟩
  | msgrcv =>
      rw [here] at blocked
      cases present : state.queue with
      | none =>
          rw [present] at blocked
          cases blocked
      | some queue =>
          simp only [present, Option.map_eq_none_iff, receive_eq_none] at blocked
          exact .inr ⟨queue, rfl, .inr ⟨rfl, blocked⟩⟩

omit [Fintype Client] [DecidableEq Client] in
/-- The server without a step has ended, or waits for a request or for room. -/
theorem server_blocked (state : State Client Text) :
    state.serverStep limit reply = none ↔
      state.server = .returned ∨ state.server = .exited ∨ ∃ queue, state.queue = some queue ∧
        (state.server = .msgrcv ∧ texts msgRequest queue = [] ∨
          state.server = .msgsnd ∧ limit ≤ queue.length) := by
  rw [State.serverStep]
  cases here : state.server with
  | returned | exited | msgget => simp
  | msgctl => cases present : state.queue <;> simp
  | msgrcv => cases present : state.queue <;> simp [receive_eq_none]
  | msgsnd => cases present : state.queue <;> simp [send]

/-- Each step lowers the number of calls that the server and the clients can still make. -/
theorem calls_next {label : Label Client} {state later : State Client Text}
    (taken : (system limit request reply).next state label = some later) :
    later.server.calls + Tally.total ClientPoint.calls later.client <
      state.server.calls + Tally.total ClientPoint.calls state.client := by
  cases label with
  | server =>
      obtain ⟨fewer, same⟩ := calls_serverStep (step_of_serverStep limit reply taken)
      rw [same]
      omega
  | client client =>
      obtain ⟨fewer, same⟩ := calls_clientStep (step_of_clientStep limit request taken)
      rw [same]
      omega

/-- A run has at most four calls of the server and three calls of each client. -/
theorem length_run (labels : List (Label Client)) {state final : State Client Text}
    (run : (system limit request reply).run state labels = some final) :
    labels.length ≤ state.server.calls + Tally.total ClientPoint.calls state.client :=
  Nat.le_of_add_right_le (System.length_run_le (system limit request reply)
    (fun state => state.server.calls + Tally.total ClientPoint.calls state.client)
    (fun _ _ _ taken => calls_next taken) labels run)

/-- No client has found that the queue does not exist, unless it is removed. -/
def Served (state : State Client Text) : Prop :=
  state.server ≠ .msgget ∧ (state.queue.isSome = true → ∀ client, state.client client ≠ .exited)

omit [Fintype Client] in
/-- Each step keeps the clients served. -/
theorem served_step {label : Label Client} (served : Served state)
    (taken : (system limit request reply).next state label = some later) : Served later := by
  obtain ⟨started, served⟩ := served
  cases label with
  | server =>
      cases step_of_serverStep limit reply taken with
      | msgget here => exact absurd here started
      | msgrcv _ _ _ _ present | msgsnd _ _ present => exact ⟨nofun, fun _ => served (present ▸ rfl)⟩
      | msgctl => exact ⟨nofun, nofun⟩
      | fail _ absent => exact ⟨nofun, served⟩
  | client client =>
      cases step_of_clientStep limit request taken with
      | msgget _ _ present =>
          exact ⟨started, fun _ other here =>
            served (present ▸ rfl) other (client_of_goto here nofun).2⟩
      | msgsnd _ _ present | msgrcv _ _ _ _ present =>
          exact ⟨started, fun _ other here =>
            served (present ▸ rfl) other (client_of_goto here nofun).2⟩
      | fail _ absent =>
          refine ⟨started, fun present => ?_⟩
          have gone : state.queue.isSome = true := present
          rw [absent] at gone
          cases gone

omit [Fintype Client] [DecidableEq Client] in
/-- The queue at the reply holds the requests behind the first one. -/
theorem Inv.full (inv : Inv request reply state) (here : state.server = .msgsnd)
    {queue : List (Message Text)} (present : state.queue = some queue) :
    queue.length + 1 = state.sent.length := by
  obtain ⟨requests, replies, length⟩ := inv.holds queue present
  have silent : texts msgReply queue = [] := by
    rcases replies with silent | ⟨_, other, _⟩
    · exact silent
    · rw [here] at other
      cases other
  have some' : 0 < state.sent.length :=
    List.length_pos_iff.mpr (inv.asked (by rw [here]; rfl))
  rw [here] at requests
  rw [silent, requests, List.length_drop, List.length_map] at length
  have one : ServerPoint.msgsnd.asked.toNat = 1 := rfl
  rw [one, List.length_nil] at length
  omega

/-- If no client has a step while the server serves, then each one waits for room or has sent its request. -/
theorem Inv.clients_wait (inv : Inv request reply state) (served : Served state)
    (stuck : ∀ client, (system limit request reply).next state (.client client) = none)
    (here : state.server = .msgrcv ∨ state.server = .msgsnd) :
    ∃ queue, state.queue = some queue ∧
      (limit ≤ queue.length ∨ ∀ client, client ∈ state.sent) := by
  have present : state.queue.isSome = true := by
    rw [inv.present]
    rcases here with here | here <;> rw [here] <;> rfl
  obtain ⟨queue, same⟩ := Option.isSome_iff_exists.mp present
  refine ⟨queue, same, ?_⟩
  by_contra none
  rw [not_or, Nat.not_le] at none
  refine none.2 fun client => ?_
  rcases client_blocked (stuck client) with ended | ⟨other, equal, blocked⟩
  · cases there : state.client client with
    | msgget | msgsnd | msgrcv =>
        rw [there] at ended
        cases ended
    | printed text =>
        have late := (inv.printed client text there).2.2
        rcases here with here | here <;> rw [here] at late <;> rcases late with late | late <;>
          cases late
    | exited => exact absurd there (served.2 present client)
  · cases same.symm.trans equal
    rcases blocked with ⟨_, full⟩ | ⟨waits, _⟩
    · exact absurd full (Nat.not_le.mpr none.1)
    · exact inv.sends client waits

omit [Fintype Client] [DecidableEq Client] in
/-- The server waits for a request only if no client has sent one. -/
theorem Inv.unsent (inv : Inv request reply state) (here : state.server = .msgrcv)
    {queue : List (Message Text)} (present : state.queue = some queue) :
    texts msgRequest queue = state.sent.map request ∧ queue.length = state.sent.length := by
  obtain ⟨requests, replies, length⟩ := inv.holds queue present
  have silent : texts msgReply queue = [] := by
    rcases replies with silent | ⟨_, other, _⟩
    · exact silent
    · rw [here] at other
      cases other
  rw [here] at requests
  have same : texts msgRequest queue = state.sent.map request := requests
  refine ⟨same, ?_⟩
  rw [length, silent, same, List.length_map]
  rfl

/-- Each client that sends is recorded, so a list of all clients is long enough. -/
theorem card_le_length {clients : List Client} (all : ∀ client, client ∈ clients) :
    Fintype.card Client ≤ clients.length := by
  have covered : (Finset.univ : Finset Client) ⊆ clients.toFinset :=
    fun client _ => List.mem_toFinset.mpr (all client)
  exact (Finset.card_le_card covered).trans (List.toFinset_card_le clients)

/-- The server can receive a request when the clients that it serves have gone forward. -/
theorem Inv.receives (inv : Inv request reply state) (served : Served state) (room : 0 < limit)
    (some' : 0 < Fintype.card Client) (here : state.server = .msgrcv)
    (stuck : ∀ client, (system limit request reply).next state (.client client) = none) :
    ∃ later, (system limit request reply).next state .server = some later ∧
      later.server = .msgsnd := by
  obtain ⟨queue, present, waits⟩ := inv.clients_wait served stuck (.inl here)
  obtain ⟨requests, length⟩ := inv.unsent here present
  have sent : 0 < state.sent.length := by
    rcases waits with full | all
    · omega
    · exact some'.trans_le (card_le_length all)
  cases taken : state.serverStep limit reply with
  | none =>
      have blocked := (server_blocked state).mp taken
      rw [here] at blocked
      obtain ⟨other, same, ⟨_, empty⟩ | ⟨other', _⟩⟩ :=
        (blocked.resolve_left nofun).resolve_left nofun
      · cases present.symm.trans same
        rw [requests, List.map_eq_nil_iff] at empty
        rw [empty] at sent
        exact absurd sent (Nat.lt_irrefl 0)
      · cases other'
  | some later =>
      refine ⟨later, taken, ?_⟩
      cases step_of_serverStep limit reply taken with
      | msgrcv => rfl
      | msgget other | msgsnd other | msgctl other => cases here.symm.trans other
      | fail _ absent => cases present.symm.trans absent

/-- The clients that the server serves fill the queue behind the request that it has received. -/
theorem Inv.fills (inv : Inv request reply state) (served : Served state)
    (many : limit < Fintype.card Client) (here : state.server = .msgsnd)
    (stuck : ∀ client, (system limit request reply).next state (.client client) = none) :
    (system limit request reply).Stuck (fun _ => True) state := by
  obtain ⟨queue, present, waits⟩ := inv.clients_wait served stuck (.inr here)
  have length := inv.full here present
  have full : limit ≤ queue.length := by
    rcases waits with full | all
    · exact full
    · have bound := card_le_length all
      omega
  rintro (_ | client) _
  · exact (server_blocked state).mpr (.inr (.inr ⟨queue, present, .inr ⟨here, full⟩⟩))
  · exact stuck client

/-- The server can wait at its reply for ever if and only if more clients than the queue has room for can send. -/
theorem deadlock_iff :
    (∃ state, (system limit request reply).Reachable state ∧
        (system limit request reply).Stuck (fun _ => True) state ∧ state.server = .msgsnd) ↔
      0 < limit ∧ limit < Fintype.card Client := by
  constructor
  · rintro ⟨state, reached, stuck, here⟩
    have inv := reachable_inv reached
    have sent : state.sent ≠ [] := inv.asked (by rw [here]; rfl)
    have blocked := (server_blocked state).mp (stuck .server trivial)
    rw [here] at blocked
    obtain ⟨queue, present, ⟨other, _⟩ | ⟨_, full⟩⟩ :=
      (blocked.resolve_left nofun).resolve_left nofun
    · cases other
    · have length := inv.full here present
      have bound := inv.nodup.length_le_card
      exact ⟨reachable_room reached sent, by omega⟩
  · rintro ⟨room, many⟩
    have begun : (system limit request reply).run start [.server] =
        some { (start : State Client Text) with queue := some [], server := .msgrcv } := rfl
    have reached := (system limit request reply).reachable_of_run rfl [.server] begun
    have served : Served { (start : State Client Text) with
        queue := some [], server := .msgrcv } := ⟨nofun, fun _ _ => nofun⟩
    obtain ⟨first, waiting, run, here, stuck⟩ := exists_clients_stuck limit request reply
      { (start : State Client Text) with queue := some [], server := .msgrcv }
    have reached := reached.run first run
    have served := System.run_invariant Served served
      (fun _ _ _ served taken => served_step served taken) first run
    obtain ⟨asked, taken, here⟩ := (reachable_inv reached).receives served room
      (Nat.zero_lt_of_lt many) here stuck
    have reached := reached.step .server taken
    have served := served_step served taken
    obtain ⟨second, final, run, same, stuck⟩ := exists_clients_stuck limit request
      reply asked
    have reached := reached.run second run
    have served := System.run_invariant Served served
      (fun _ _ _ served taken => served_step served taken) second run
    exact ⟨final, reached, (reachable_inv reached).fills served many (same.trans here) stuck,
      same.trans here⟩

/-- If the queue has room for the requests of all clients, then each run that cannot go on is short, and the server has replied and all clients have ended, or no client has sent and the clients have exited. -/
theorem run_ends (room : Fintype.card Client ≤ limit) (labels : List (Label Client))
    (run : (system limit request reply).run start labels = some state) :
    labels.length ≤ 4 + 3 * Fintype.card Client ∧
    ((system limit request reply).Stuck (fun _ => True) state →
      state.server = .returned ∧ (∀ client, (state.client client).ended = true) ∨
      state.server = .msgrcv ∧ ∀ client, state.client client = .exited) := by
  have inv := reachable_inv ((system limit request reply).reachable_of_run rfl labels run)
  have bound := length_run labels run
  have total : Tally.total ClientPoint.calls (start : State Client Text).client =
      3 * Fintype.card Client := by
    have each (client : Client) : ((start : State Client Text).client client).calls = 3 := rfl
    rw [Tally.total, Finset.sum_const_nat fun client _ => each client]
    exact Nat.mul_comm _ 3
  refine ⟨by rw [total] at bound; exact bound, fun stuck => ?_⟩
  have clients (client : Client) := client_blocked (stuck (.client client) trivial)
  rcases (server_blocked state).mp (stuck .server trivial) with here | here | blocked
  · refine .inl ⟨here, fun client => ?_⟩
    refine (clients client).resolve_right ?_
    rintro ⟨queue, present, _⟩
    have serving := inv.serving present
    rw [here] at serving
    cases serving
  · exact absurd here inv.alive
  · obtain ⟨queue, present, ⟨here, empty⟩ | ⟨here, full⟩⟩ := blocked
    · obtain ⟨requests, length⟩ := inv.unsent here present
      have unsent : state.sent = [] := List.map_eq_nil_iff.mp (requests.symm.trans empty)
      refine .inr ⟨here, fun client => ?_⟩
      have present' : 0 < Fintype.card Client := Fintype.card_pos_iff.mpr ⟨client⟩
      rcases clients client with ended | ⟨other, same, ⟨_, full⟩ | ⟨waits, _⟩⟩
      · cases there : state.client client with
        | exited => rfl
        | printed text =>
            have member := (inv.printed client text there).2.1
            rw [unsent] at member
            cases member
        | msgget | msgsnd | msgrcv =>
            rw [there] at ended
            cases ended
      · cases present.symm.trans same
        rw [length, unsent, List.length_nil] at full
        omega
      · have member := inv.sends client waits
        rw [unsent] at member
        cases member
    · have length := inv.full here present
      have sent := inv.nodup.length_le_card
      omega

/-- One client gets the reply and the server returns. -/
theorem run_ends_one : ∃ state : State (Fin 1) Nat,
    (system 1 (fun _ => 5) 7).run start [.server, .client 0, .client 0, .server, .server,
      .client 0, .server] = some state ∧
    (state.server = .returned ∧ (∀ client, (state.client client).ended = true) ∨
      state.server = .msgrcv ∧ ∀ client, state.client client = .exited) := by
  have room : Fintype.card (Fin 1) ≤ 1 := by decide
  have run : (system 1 (fun _ : Fin 1 => 5) 7).run start [.server, .client 0, .client 0, .server,
      .server, .client 0, .server] = some _ := rfl
  refine ⟨_, run, (run_ends room _ run).2 ?_⟩
  rintro (_ | client) _
  · rfl
  · obtain rfl := Subsingleton.elim client 0
    rfl

end Progress

end Msgq

/-
This file proves that the clients and the server share one room.
-/

import LinuxSystemProgramming.Construction.Chat
import LinuxSystemProgramming.Proof.Chats.History
import LinuxSystemProgramming.Proof.Chats.Printing

namespace Chat
open Transition CString
open Chats (Event receives tagged spoken room linesOf live login said whole Chronicle)

/-- Each call of `recv` returns one whole string, and an accept finds a free slot. -/
def aligned (state : State) : Label → Bool
  | .server label => Chats.permitted state.server label
  | .receive _ bytes => whole bytes
  | _ => true

/-- Each frame is a string with its zero. -/
def Framed (frames : List (List UInt8)) : Prop :=
  ∀ frame ∈ frames, whole frame = true ∧ frame ≠ []

/-- A string with its zero is whole. -/
theorem whole_terminated {string : List UInt8} (clean : 0 ∉ string) :
    whole (string ++ [0]) = true ∧ string ++ [0] ≠ [] := by
  refine ⟨decide_eq_true (.inr ?_), List.append_ne_nil_of_right_ne_nil _ (List.cons_ne_nil _ _)⟩
  rw [text_terminated _ [] clean]

/-- A whole beginning of a stream of frames is its first frame. -/
theorem Framed.first {frames : List (List UInt8)} (framed : Framed frames)
    {received : List UInt8} (complete : whole received = true) (nonempty : received ≠ [])
    (begins : received <+: frames.flatten) : ∃ rest, frames = received :: rest := by
  cases frames with
  | nil => exact absurd (List.prefix_nil.mp begins) nonempty
  | cons frame rest =>
      obtain ⟨tail, stream⟩ := begins
      obtain ⟨fine, filled⟩ := framed frame List.mem_cons_self
      have ends := Chats.whole_nonempty complete nonempty
      have also := Chats.whole_nonempty fine filled
      rw [List.flatten_cons, ends, also, List.append_assoc, List.append_assoc] at stream
      have same := (separated (zero_not_mem_text _) (zero_not_mem_text _) stream).1
      refine ⟨rest, ?_⟩
      rw [ends, also, same]

/-- A stream of frames is empty when there are no frames. -/
theorem Framed.empty {frames : List (List UInt8)} (framed : Framed frames)
    (none : frames.flatten = []) : frames = [] := by
  cases frames with
  | nil => rfl
  | cons frame rest =>
      rw [List.flatten_cons, List.append_eq_nil_iff] at none
      exact absurd none.1 (framed frame List.mem_cons_self).2

/-- The client hands frames to `send`. -/
theorem User.framed (user : User) {count : Nat} {frame : List UInt8}
    (handed : user.frame count = some frame) : whole frame = true ∧ frame ≠ [] := by
  obtain ⟨frames, sends, member⟩ := Option.bind_eq_some_iff.mp handed
  obtain ⟨login, stored, rfl⟩ := Option.map_eq_some_iff.mp sends
  have messages (iterations : Nat) (buf : Buffer Chatc.maxBuf) (stdin : List UInt8) :
      Framed (Chatc.sendMsgs iterations buf stdin) := by
    induction iterations generalizing buf stdin with
    | zero => exact nofun
    | succ iterations inductionHypothesis =>
        intro frame member
        rcases List.mem_cons.mp member with rfl | later
        · exact whole_terminated (zero_not_mem_text _)
        · exact inductionHypothesis _ _ frame later
  rcases List.mem_cons.mp (List.mem_of_getElem? member) with rfl | later
  · rw [Chatc.sendID, Option.ite_none_right_eq_some, Option.some.injEq] at stored
    rw [← stored.2]
    refine whole_terminated fun zero => ?_
    exact zero_not_mem_text _ ((List.takeWhile_prefix _).subset zero)
  · exact messages _ _ _ frame later

/-- What a client handed to `send` was received or is on the way. After the end of its stream the server has received the end, once if the client has logged in and otherwise twice. -/
inductive Fed (state : State) (client : Nat) : Prop where
  | streaming (rest : List (List UInt8))
      (handed : state.handed client = receives client state.server.history ++ rest)
      (stream : state.toServer client = rest.flatten)
      (open' : client < state.server.opened → live client state.server.history = true)
  | nameless (ended : state.ended client = true) (handed : state.handed client = [])
      (stream : state.toServer client = [])
      (received : receives client state.server.history = [[]])
      (alive : live client state.server.history = true)
  | gone (ended : state.ended client = true) (stream : state.toServer client = [])
      (dead : live client state.server.history = false) (accepted : client < state.server.opened)
      (received : receives client state.server.history = state.handed client ++ [[]] ∧
          state.handed client ≠ [] ∨
        receives client state.server.history = [[], []] ∧ state.handed client = [])

/-- The server is in a permitted state, and the bytes on the way are the frames that were not received. -/
structure Inv (listener : Nat) (state : State) : Prop where
  server : ((Chats.system listener).restrict Chats.permitted).Reachable state.server
  chronicle : Chronicle state.server.opened state.server.history
  sends : Chats.Sends state.server
  framed : ∀ client, Framed (state.handed client)
  fed : ∀ client, Fed state client
  accepted : state.server.opened ≤ state.connected
  young : ∀ client, state.connected ≤ client →
    state.handed client = [] ∧ state.ended client = false
  heard : ∀ client, state.heard client <+: state.server.sent client
  short : ∀ client, ∀ bytes ∈ state.heard client, bytes.length ≤ Chatc.maxBuf

section Steps
variable {listener : Nat} {user : Nat → User} {state later : State} {client : Nat}

/-- What a client handed to `send` stays received or on the way when only other clients are served. -/
theorem Fed.keep (fed : Fed state client) (handed : later.handed client = state.handed client)
    (ended : state.ended client = true → later.ended client = true)
    (stream : later.toServer client = state.toServer client)
    (received : receives client later.server.history = receives client state.server.history)
    (alive : live client later.server.history = live client state.server.history)
    (opened : later.server.opened = state.server.opened) : Fed later client := by
  cases fed with
  | streaming rest split flow open' =>
      refine .streaming rest ?_ (stream.trans flow) fun inside => ?_
      · rw [handed, received, split]
      · rw [alive]
        exact open' (opened ▸ inside)
  | nameless stopped none empty login running =>
      exact .nameless (ended stopped) (handed.trans none) (stream.trans empty) (received.trans login)
        (alive.trans running)
  | gone stopped empty dead inside all =>
      refine .gone (ended stopped) (stream.trans empty) (alive.trans dead) (opened.symm ▸ inside) ?_
      rw [received, handed]
      exact all

/-- The acceptance of a connection keeps what its client handed to `send` on the way. -/
theorem Fed.accept (fed : Fed state client) (handed : later.handed client = state.handed client)
    (ended : later.ended client = state.ended client)
    (stream : later.toServer client = state.toServer client)
    (history : later.server.history = .accepted state.server.opened :: state.server.history)
    (opened : later.server.opened = state.server.opened + 1) : Fed later client := by
  have received : receives client later.server.history =
      receives client state.server.history := by
    rw [history, receives]
  have alive : live client later.server.history =
      (decide (state.server.opened = client) || live client state.server.history) := by
    rw [history, live]
  cases fed with
  | streaming rest split flow open' =>
      refine .streaming rest ?_ (stream.trans flow) fun inside => ?_
      · rw [handed, received, split]
      · rw [opened] at inside
        rw [alive]
        rcases Nat.lt_or_eq_of_le (Nat.le_of_lt_succ inside) with earlier | same
        · rw [open' earlier, Bool.or_true]
        · rw [decide_eq_true same.symm, Bool.true_or]
  | nameless stopped none empty login running =>
      refine .nameless (ended.trans stopped) (handed.trans none) (stream.trans empty)
        (received.trans login) ?_
      rw [alive, running, Bool.or_true]
  | gone stopped empty dead inside all =>
      refine .gone (ended.trans stopped) (stream.trans empty) ?_ (by omega) ?_
      · rw [alive, dead, decide_eq_false (Nat.ne_of_gt inside)]
        rfl
      · rw [received, handed]
        exact all

/-- A receive of the server takes the first frame on the way, or the end of the stream. -/
theorem Fed.receive (fed : Fed state client) (framed : Framed (state.handed client))
    (alive : live client state.server.history = true) (accepted : client < state.server.opened)
    {bytes : List UInt8} (complete : whole bytes = true)
    (delivers : state.delivers client bytes = true)
    (handed : later.handed client = state.handed client)
    (ended : later.ended client = state.ended client)
    (stream : later.toServer client = (state.toServer client).drop bytes.length)
    (history : later.server.history = .received client bytes :: state.server.history)
    (opened : later.server.opened = state.server.opened) : Fed later client := by
  obtain ⟨begins, stopped⟩ := of_decide_eq_true delivers
  have received : receives client later.server.history =
      receives client state.server.history ++ [bytes] := by
    rw [history, receives, if_pos rfl]
  have running : live client later.server.history =
      !decide (bytes = [] ∧ (login client state.server.history).isSome = true) := by
    rw [history, live, alive, Bool.true_and]
    by_cases empty : bytes = [] <;> simp [empty]
  cases fed with
  | streaming rest split flow open' =>
      by_cases empty : bytes = []
      · subst empty
        obtain ⟨none, done⟩ := stopped rfl
        have taken : rest = [] := by
          refine Framed.empty (fun frame member => ?_) (flow.symm.trans none)
          exact framed frame (split ▸ List.mem_append_right _ member)
        rw [taken, List.append_nil] at split
        have drained : later.toServer client = [] := by
          rw [stream, none]
          rfl
        rw [Chats.login_eq_head?] at running
        cases handed' : state.handed client with
        | nil =>
            rw [handed'] at split
            rw [← split] at received running
            exact .nameless (ended.trans done) (handed.trans handed') drained received running
        | cons first others =>
            rw [handed'] at split
            rw [← split] at received running
            refine .gone (ended.trans done) drained running (opened.symm ▸ accepted) (.inl ?_)
            rw [handed, handed']
            exact ⟨received, List.cons_ne_nil _ _⟩
      · rw [flow] at begins
        have all : Framed rest := fun frame member =>
          framed frame (split ▸ List.mem_append_right _ member)
        obtain ⟨others, same⟩ := all.first complete empty begins
        refine .streaming others ?_ ?_ fun _ => ?_
        · rw [handed, received, split, same, List.append_assoc]
          rfl
        · rw [stream, flow, same, List.flatten_cons, List.drop_left]
        · rw [running, decide_eq_false fun ends => empty ends.1]
          rfl
  | nameless done none flow first open' =>
      rw [flow] at begins
      have empty : bytes = [] := List.prefix_nil.mp begins
      subst empty
      refine .gone (ended.trans done) (by rw [stream, flow]; rfl) ?_ (opened.symm ▸ accepted) (.inr ?_)
      · rw [running, Chats.login_eq_head?, first]
        rfl
      · rw [received, first, handed]
        exact ⟨rfl, none⟩
  | gone _ _ dead => cases alive.symm.trans dead

/-- A frame that a client hands to `send` is the last one on the way. -/
theorem Fed.send (fed : Fed state client) (runs : state.ended client = false) (frame : List UInt8)
    (handed : later.handed client = state.handed client ++ [frame])
    (stream : later.toServer client = state.toServer client ++ frame)
    (server : later.server = state.server) : Fed later client := by
  cases fed with
  | streaming rest split flow open' =>
      refine .streaming (rest ++ [frame]) ?_ ?_ (server ▸ open')
      · rw [handed, split, server, List.append_assoc]
      · rw [stream, flow, List.flatten_append, List.flatten_singleton]
  | nameless stopped => cases runs.symm.trans stopped
  | gone stopped => cases runs.symm.trans stopped

/-- A step that serves nobody takes nothing from the streams. -/
theorem rest_of_loop {label : Chats.Label}
    (other : ∀ stale received, label ≠ .serve stale received) : state.rest label = state.toServer := by
  cases label with
  | serve stale received => exact absurd rfl (other stale received)
  | _ => rfl

/-- A served client loses the received bytes. -/
theorem rest_of_served {connection : Nat} (stale : Buffer Chats.maxBuf) (received : List UInt8)
    (served : state.served = some connection) :
    state.rest (.serve stale received) = Function.update state.toServer connection
      ((state.toServer connection).drop received.length) := by
  rw [State.rest, served]
  rfl

/-- Each step of the server keeps what the clients handed to `send` received or on the way. -/
theorem Inv.fed_server (inv : Inv listener state) {label : Chats.Label}
    (allowed : Chats.permitted state.server label = true)
    (supplied : state.supplies listener label = true) {server : Chats.State}
    (records : Chats.Records state.server server label) (client : Nat) :
    Fed { state with server := server, toServer := state.rest label } client := by
  have fed := inv.fed client
  cases records with
  | accept newSockfd history opened sent => exact fed.accept rfl rfl rfl history opened
  | serve stale received connection behind alive history opened sent =>
      have served : state.served = some connection := behind
      have flow := rest_of_served stale received served
      rw [State.supplies, served, Bool.and_eq_true] at supplied
      have delivers : state.delivers connection received = true := supplied.1
      by_cases own : client = connection
      · subst own
        refine fed.receive (inv.framed client) alive ?_ allowed delivers rfl rfl ?_ history opened
        · refine Nat.lt_of_not_le fun young => ?_
          cases alive.symm.trans (inv.chronicle.fresh young).1
        · simp only [flow, Function.update_self]
      · refine fed.keep rfl id ?_ ?_ ?_ opened
        · simp only [flow, Function.update_of_ne own]
        · simp only [history, receives, if_neg (Ne.symm own)]
        · simp [history, live, Ne.symm own]
  | loop _ other history opened sent =>
      refine fed.keep rfl id ?_ ?_ ?_ opened
      · simp only [rest_of_loop other]
      · simp only [history]
      · simp only [history]

/-- A list of one client that grows by an element has the older elements and this one. -/
theorem mem_update_append {Element : Type} {lists : Nat → List Element} {mover : Nat}
    {added element : Element}
    (member : element ∈ Function.update lists mover (lists mover ++ [added]) client) :
    element ∈ lists client ∨ client = mover ∧ element = added := by
  by_cases own : client = mover
  · subst own
    rw [Function.update_self, List.mem_append, List.mem_singleton] at member
    exact member.imp_right fun same => ⟨rfl, same⟩
  · rw [Function.update_of_ne own] at member
    exact .inl member

/-- An aligned step of the server keeps the facts. -/
theorem Inv.server_step (inv : Inv listener state) {label : Chats.Label} {server : Chats.State}
    (allowed : Chats.permitted state.server label = true)
    (supplied : state.supplies listener label = true)
    (moved : state.server.next listener label = some server) :
    Inv listener { state with server := server, toServer := state.rest label } := by
  have serving := Chats.reachable_serving inv.server
  have taken := Chats.step_of_next moved
  have records := Chats.records_step serving taken
  refine ⟨?_, inv.chronicle.step records, inv.sends.step serving allowed taken, inv.framed,
    inv.fed_server allowed supplied records, ?_, inv.young, fun client => ?_, inv.short⟩
  · exact .step label inv.server ((System.restrict_next _ _ _ _ _).mpr ⟨allowed, moved⟩)
  · cases records with
    | accept newSockfd history opened sent =>
        have waiting : state.server.opened < state.connected := by
          simpa [State.supplies, State.readable] using supplied
        exact opened ▸ waiting
    | serve stale received connection behind alive history opened sent =>
        exact opened ▸ inv.accepted
    | loop _ other history opened sent => exact opened ▸ inv.accepted
  · cases records with
    | accept newSockfd history opened sent => exact sent ▸ inv.heard client
    | serve stale received connection behind alive history opened sent =>
        exact (inv.heard client).trans (sent client)
    | loop _ other history opened sent => exact sent ▸ inv.heard client

/-- A client that hands over its next string keeps the facts. -/
theorem Inv.send (inv : Inv listener state) {sender : Nat} (inside : sender < state.connected)
    (runs : state.ended sender = false) {frame : List UInt8}
    (handed : (user sender).frame (state.handed sender).length = some frame) :
    Inv listener { state with
      handed := Function.update state.handed sender (state.handed sender ++ [frame])
      toServer := Function.update state.toServer sender (state.toServer sender ++ frame) } := by
  refine { inv with
    framed := fun client other member => ?_
    fed := fun client => ?_
    young := fun client young => ?_ }
  · rcases mem_update_append member with before | ⟨_, rfl⟩
    · exact inv.framed client other before
    · exact (user sender).framed handed
  · by_cases own : client = sender
    · subst own
      exact (inv.fed client).send runs frame (by simp only [Function.update_self])
        (by simp only [Function.update_self]) rfl
    · exact (inv.fed client).keep (by simp only [Function.update_of_ne own]) id
        (by simp only [Function.update_of_ne own]) rfl rfl rfl
  · simp only [Function.update_of_ne (inside.trans_le young).ne']
    exact inv.young client young

/-- A client that receives one whole string keeps the facts. -/
theorem Inv.receive (inv : Inv listener state) {receiver : Nat} {bytes : List UInt8}
    (allowed : whole bytes = true) (nonempty : bytes ≠ [])
    (short : bytes.length ≤ Chatc.maxBuf) (arrived : bytes <+: state.toClient receiver) :
    Inv listener { state with
      heard := Function.update state.heard receiver (state.heard receiver ++ [bytes]) } := by
  refine { inv with
    fed := fun client => (inv.fed client).keep rfl id rfl rfl rfl rfl
    heard := fun client => ?_
    short := fun client other member => ?_ }
  · by_cases own : client = receiver
    · subst own
      obtain ⟨others, split⟩ := inv.heard client
      rw [State.toClient, ← split, List.flatten_append, List.drop_left] at arrived
      have all : Framed others := fun frame member =>
        (inv.sends client frame (split ▸ List.mem_append_right _ member)).whole
      obtain ⟨rest, same⟩ := all.first allowed nonempty arrived
      refine ⟨rest, ?_⟩
      simp only [Function.update_self]
      rw [← split, same, List.append_assoc]
      rfl
    · simp only [Function.update_of_ne own]
      exact inv.heard client
  · rcases mem_update_append member with before | ⟨_, rfl⟩
    · exact inv.short client other before
    · exact short

/-- Each aligned step keeps the facts. -/
theorem Inv.step (inv : Inv listener state) {label : Label} (allowed : aligned state label = true)
    (step : Step listener user state label later) : Inv listener later := by
  cases step with
  | server label supplied server moved => exact inv.server_step allowed supplied moved
  | connect =>
      exact { inv with
        fed := fun client => (inv.fed client).keep rfl id rfl rfl rfl rfl
        accepted := inv.accepted.trans (Nat.le_succ _)
        young := fun client young => inv.young client (Nat.le_of_succ_le young) }
  | send sender inside runs frame handed => exact inv.send inside runs handed
  | close sender inside =>
      refine { inv with
        fed := fun client => (inv.fed client).keep rfl (fun ended => ?_) rfl rfl rfl rfl
        young := fun client young => ?_ }
      · by_cases own : client = sender
        · simp only [own, Function.update_self]
        · simp only [Function.update_of_ne own]
          exact ended
      · simp only [Function.update_of_ne (inside.trans_le young).ne']
        exact inv.young client young
  | receive receiver bytes nonempty short arrived =>
      exact inv.receive allowed nonempty short arrived

/-- The facts hold in each state of the aligned runs. -/
theorem reachable_inv (reached : ((system listener user).restrict aligned).Reachable state) :
    Inv listener state := by
  apply reached.invariant (Inv listener)
  · rintro state ⟨server, ⟨sockIdx, rfl⟩, rfl⟩
    refine ⟨.initial ⟨sockIdx, rfl⟩, .nil, nofun, nofun, fun client => ?_, le_rfl,
      fun _ _ => ⟨rfl, rfl⟩, fun client => List.prefix_rfl, nofun⟩
    exact .streaming [] rfl rfl nofun
  · intro state label later _ inv taken
    obtain ⟨allowed, moved⟩ := (System.restrict_next _ _ _ _ _).mp taken
    exact inv.step allowed (step_of_next moved)

end Steps

/-- A user says the lines behind its ID, and a notice when its client ends. -/
def State.speech (state : State) (client : Nat) : List (List UInt8) :=
  (state.handed client).tail.map text ++
    if state.ended client = true then [Chats.logOut] else []

/-- All connections are accepted, nothing is on the way, and each ended client has been logged out. -/
structure State.Settled (state : State) : Prop where
  accepted : state.server.opened = state.connected
  received : ∀ client, state.toServer client = []
  open' : ∀ fd client, state.server.connection fd = some client →
    state.ended client = false ∧ (state.handed client ≠ [] → state.toClient client = [])

section Speech
variable {listener : Nat} {user : Nat → User} {state : State} {client : Nat}

/-- A frame says its text. -/
theorem Framed.said_eq {frames : List (List UInt8)} (framed : Framed frames) :
    frames.map said = frames.map text :=
  List.map_congr_left fun frame member => if_neg (framed frame member).2

/-- The server has heard everything of a client whose end it has received. -/
theorem spoken_of_gone (framed : Framed (state.handed client)) (ended : state.ended client = true)
    (received : receives client state.server.history = state.handed client ++ [[]] ∧
        state.handed client ≠ [] ∨
      receives client state.server.history = [[], []] ∧ state.handed client = []) :
    spoken client state.server.history = state.speech client := by
  rw [spoken, State.speech, if_pos ended]
  rcases received with ⟨all, nonempty⟩ | ⟨all, none⟩
  · obtain ⟨first, rest, same⟩ := List.exists_cons_of_ne_nil nonempty
    have behind : Framed rest := fun frame member => framed frame (same ▸ .tail _ member)
    rw [all, same, List.cons_append, List.tail_cons, List.tail_cons, List.map_append,
      behind.said_eq]
    rfl
  · rw [all, none]
    rfl

/-- The server has heard the beginning of what a client says. -/
theorem Fed.begins (fed : Fed state client) (framed : Framed (state.handed client)) :
    spoken client state.server.history <+: state.speech client := by
  cases fed with
  | streaming rest split flow open' =>
      rw [spoken, State.speech]
      cases received : receives client state.server.history with
      | nil => exact List.nil_prefix
      | cons first others =>
          rw [received] at split
          have behind : Framed others := fun frame member =>
            framed frame (split ▸ List.mem_append_left _ (.tail _ member))
          rw [split, List.cons_append, List.tail_cons, List.tail_cons, List.map_append,
            behind.said_eq, List.append_assoc]
          exact List.prefix_append _ _
  | nameless ended none empty received alive =>
      rw [spoken, received]
      exact List.nil_prefix
  | gone ended empty dead accepted received =>
      rw [spoken_of_gone framed ended received]

/-- The server has heard all that a client says when nothing of it is on the way. -/
theorem Fed.all (fed : Fed state client) (framed : Framed (state.handed client))
    (drained : state.toServer client = [])
    (stopped : state.ended client = true →
      client < state.server.opened ∧ live client state.server.history = false) :
    spoken client state.server.history = state.speech client := by
  cases fed with
  | streaming rest split flow open' =>
      have runs : ¬ state.ended client = true := fun ended => by
        obtain ⟨accepted, dead⟩ := stopped ended
        cases dead.symm.trans (open' accepted)
      have none : rest = [] := by
        refine Framed.empty (fun frame member => ?_) (flow.symm.trans drained)
        exact framed frame (split ▸ List.mem_append_right _ member)
      rw [none, List.append_nil] at split
      have behind : Framed (receives client state.server.history).tail := fun frame member =>
        framed frame (split ▸ List.mem_of_mem_tail member)
      rw [spoken, State.speech, if_neg runs, List.append_nil, split, behind.said_eq]
  | nameless ended none empty received alive => cases (stopped ended).2.symm.trans alive
  | gone ended empty dead accepted received => exact spoken_of_gone framed ended received

/-- An accepted connection is live until its client ends. -/
theorem Fed.alive (fed : Fed state client) (runs : state.ended client = false)
    (accepted : client < state.server.opened) : live client state.server.history = true := by
  cases fed with
  | streaming rest split flow open' => exact open' accepted
  | nameless ended => cases runs.symm.trans ended
  | gone ended => cases runs.symm.trans ended

/-- The name of a client is the text that it sent first. -/
theorem Inv.name (inv : Inv listener state) {name : Nat → List UInt8}
    (delivered : Chats.Delivered name state.server)
    (known : (login client state.server.history).isSome = true) {first : List UInt8}
    {rest : List (List UInt8)} (handed : state.handed client = first :: rest) :
    name client = text first := by
  have filled := (inv.framed client first (handed ▸ List.mem_cons_self)).2
  rw [Chats.login_eq_head?, List.isSome_head?] at known
  have heads : (receives client state.server.history).head? = some first := by
    cases inv.fed client with
    | streaming others split =>
        obtain ⟨login, more, received⟩ := List.exists_cons_of_ne_nil (by simpa using known)
        rw [received, handed] at split
        rw [received, (List.cons.inj split).1]
        rfl
    | nameless _ none => cases handed.symm.trans none
    | gone _ _ _ _ received =>
        rcases received with ⟨all, _⟩ | ⟨_, none⟩
        · rw [all, handed]
          rfl
        · cases handed.symm.trans none
  exact delivered.names client first ((Chats.login_eq_head? client _).trans heads) filled

/-- `printf` writes the name of the sender in front of the text. -/
def rendered (name : Nat → List UInt8) (line : Nat × List UInt8) : List UInt8 :=
  name line.1 ++ Chats.mark ++ line.2

/-- A client prints the strings that it has received. -/
theorem Inv.printed (inv : Inv listener state) (user : Nat → User) (client : Nat) :
    state.printed user client = some ((state.heard client).map text) := by
  have framed : Framed (state.heard client) := fun frame member =>
    (inv.sends client frame ((inv.heard client).subset member)).whole
  have terminated {parts : List (List UInt8)} (framed : Framed parts)
      (earlier : List (List UInt8)) : Chatc.Ended earlier parts := by
    induction parts generalizing earlier with
    | nil => trivial
    | cons part rest inductionHypothesis =>
        obtain ⟨complete, nonempty⟩ := framed part List.mem_cons_self
        refine ⟨.inl ?_, inductionHypothesis (fun frame member => framed frame (.tail _ member)) _⟩
        rw [Chats.whole_nonempty complete nonempty]
        exact List.mem_append_right _ List.mem_cons_self
  exact (Chatc.receiveMsg_ended (fun part member => (framed part member).2) (inv.short client)
    (Chatc.tracked_start _) (terminated framed [])).1

/-- The text of a whole frame is what `sprintf` has formatted. -/
theorem text_frame {uid string : List UInt8} (complete : whole (Chats.frame uid string) = true) :
    text (Chats.frame uid string) = uid ++ Chats.mark ++ string := by
  have filled : Chats.frame uid string ≠ [] :=
    List.append_ne_nil_of_right_ne_nil _ (List.cons_ne_nil _ _)
  exact (List.append_cancel_right (Chats.whole_nonempty complete filled)).symm

/-- Under the names of the clients the server has sent the lines of the room. -/
theorem Inv.exists_name (inv : Inv listener state) : ∃ name : Nat → List UInt8,
    (∀ client first rest, state.handed client = first :: rest → name client = text first) ∧
    ∀ client, state.server.sent client = (tagged client state.server.history).map fun line =>
      Chats.frame (name line.1) line.2 := by
  obtain ⟨stored, delivered⟩ := (Chats.reachable_serving inv.server).delivered
  obtain ⟨name, same⟩ : ∃ name : Nat → List UInt8, ∀ client,
      name client = (state.handed client).head?.elim (stored client) text := ⟨_, fun _ => rfl⟩
  refine ⟨name, fun client first rest handed => ?_, fun client => ?_⟩
  · rw [same, handed]
    rfl
  · rw [delivered.sent client, ← Chats.deliveries_eq name client]
    refine Chats.deliveries_congr _ _ client _ fun other known => ?_
    rw [same]
    cases handed : state.handed other with
    | nil => rfl
    | cons first rest => exact inv.name delivered known handed

/-- A client prints the lines of a part of the room without its own ones, and up to its end when it has received all. -/
theorem Inv.prints (inv : Inv listener state) {name : Nat → List UInt8}
    (sent : ∀ client, state.server.sent client = (tagged client state.server.history).map fun line =>
      Chats.frame (name line.1) line.2) {segment : List (Nat × List UInt8)}
    (heard : tagged client state.server.history = segment.filter fun line => line.1 ≠ client) :
    ∃ part more, segment = part ++ more ∧ (state.toClient client = [] → more = []) ∧
      state.printed user client =
        some ((part.filter fun line => line.1 ≠ client).map (rendered name)) := by
  have prints {lines : List (Nat × List UInt8)}
      (same : state.heard client = lines.map fun line => Chats.frame (name line.1) line.2) :
      state.printed user client = some (lines.map (rendered name)) := by
    rw [inv.printed, same, List.map_map]
    refine congrArg some (List.map_congr_left fun line member => text_frame ?_)
    have among : Chats.frame (name line.1) line.2 ∈ state.heard client :=
      same ▸ List.mem_map_of_mem member
    exact (inv.sends client _ ((inv.heard client).subset among)).whole.1
  by_cases all : state.heard client = state.server.sent client
  · refine ⟨segment, [], (List.append_nil _).symm, fun _ => rfl, prints ?_⟩
    rw [all, sent client, heard]
  · have begins := inv.heard client
    rw [sent client, heard, List.prefix_map_iff] at begins
    obtain ⟨lines, begins, same⟩ := begins
    obtain ⟨part, ⟨more, split⟩, rfl⟩ := List.prefix_filter_iff.mp begins
    refine ⟨part, more, split.symm, fun drained => absurd ?_ all, prints same⟩
    obtain ⟨others, received⟩ := inv.heard client
    rw [State.toClient, ← received, List.flatten_append, List.drop_left] at drained
    have none : others = [] := by
      refine Framed.empty (fun frame member => ?_) drained
      exact (inv.sends client frame (received ▸ List.mem_append_right _ member)).whole
    rw [← received, none, List.append_nil]

/-- In each state of the aligned runs there is one room: each client says its lines in their order, and prints the lines of the others from a part of the room without gaps. -/
theorem conversation (reached : ((system listener user).restrict aligned).Reachable state) :
    ∃ (name : Nat → List UInt8) (log : List (Nat × List UInt8)),
      (∀ client first rest, state.handed client = first :: rest → name client = text first) ∧
      (∀ client, linesOf client log <+: state.speech client ∧
        (state.Settled → linesOf client log = state.speech client)) ∧
      ∀ client, ∃ missed segment left, log = missed ++ segment ++ left ∧
        state.printed user client =
          some ((segment.filter fun line => line.1 ≠ client).map (rendered name)) ∧
        (∀ other, client < other → linesOf other missed = []) ∧
        (state.Settled → state.handed client ≠ [] → state.ended client = false → left = []) := by
  have inv := reachable_inv reached
  have serving := Chats.reachable_serving inv.server
  obtain ⟨name, named, sent⟩ := inv.exists_name
  obtain ⟨_, delivered⟩ := serving.delivered
  refine ⟨name, room state.server.history, named, fun client => ⟨?_, fun settled => ?_⟩,
    fun client => ?_⟩
  · rw [Chats.linesOf_room]
    exact (inv.fed client).begins (inv.framed client)
  · rw [Chats.linesOf_room]
    refine (inv.fed client).all (inv.framed client) (settled.received client) fun ended => ⟨?_, ?_⟩
    · rw [settled.accepted]
      refine Nat.lt_of_not_le fun young => ?_
      cases ended.symm.trans (inv.young client young).2
    · rw [Bool.eq_false_iff]
      intro alive
      obtain ⟨fd, present⟩ := (delivered.live client).mp alive
      cases ended.symm.trans (settled.open' fd client present).1
  · obtain ⟨missed, segment, left, split, heard, complete, first⟩ := inv.chronicle.hears client
    obtain ⟨part, more, parts, drained, printed⟩ := inv.prints sent heard
    refine ⟨missed, part, more ++ left, ?_, printed, first, fun settled logged runs => ?_⟩
    · rw [split, parts]
      simp only [List.append_assoc]
    · have connected : client < state.connected :=
        Nat.lt_of_not_le fun young => logged (inv.young client young).1
      have alive := (inv.fed client).alive runs (settled.accepted ▸ connected)
      obtain ⟨fd, present⟩ := (delivered.live client).mp alive
      rw [complete alive, drained ((settled.open' fd client present).2 logged)]
      rfl

/-- Two users log in as `A` and `B`, the first one says `hi`, and the room has this line. -/
theorem conversation_run : ∃ state : State,
    state.heard 1 = [[65, 62, 32, 104, 105, 10, 0]] ∧ state.speech 0 = [[104, 105, 10]] ∧
    ∃ log, linesOf 0 log <+: [[104, 105, 10]] := by
  let user (client : Nat) : User :=
    ⟨if client = 0 then [65, 10, 104, 105, 10] else [66, 10], .fill _ 0, .fill _ 0, .fill _ 0⟩
  let stale : Buffer Chats.maxBuf := .fill Chats.maxBuf 1
  obtain ⟨state, reached, facts⟩ := ((system 3 user).restrict aligned).exists_reachable
    (start (Chats.start 3 fun _ => 0)) ⟨_, ⟨_, rfl⟩, rfl⟩
    ([.connect, .connect, .send 0, .send 1] ++
      ([.select {3}, .skip, .skip, .skip, .accept 4, .skip, .finish,
        .select {3}, .skip, .skip, .skip, .accept 5, .skip, .skip, .finish,
        .select {4, 5}, .skip, .skip, .skip, .skip, .serve stale [65, 0], .serve stale [66, 0],
        .finish] : List Chats.Label).map .server ++ [.send 0] ++
      ([.select {4}, .skip, .skip, .skip, .skip, .serve stale [104, 105, 10, 0]] :
        List Chats.Label).map .server ++ [.receive 1 [65, 62, 32, 104, 105, 10, 0]])
    (fun state => decide (state.heard 1 = [[65, 62, 32, 104, 105, 10, 0]] ∧
      state.speech 0 = [[104, 105, 10]])) (by decide +kernel)
  simp only [decide_eq_true_eq] at facts
  obtain ⟨name, log, _, said, _⟩ := conversation reached
  exact ⟨state, facts.1, facts.2, log, facts.2 ▸ (said 0).1⟩

end Speech

end Chat

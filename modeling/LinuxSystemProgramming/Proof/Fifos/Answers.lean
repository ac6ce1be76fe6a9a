import LinuxSystemProgramming.Proof.Fifos.Clients
import Mathlib.Data.List.Nodup

namespace Fifos
open Transition CString

/-- The logs hold the requests that have arrived at the server, and the pending ones are in its FIFO. -/
structure Logs (asks : Pid → Msgtype) (reply : Content maxData) (state : State)
    (arrived opened replied pending : List Pid) : Prop where
  sent : state.sent = (arrived ++ pending).map fun pid => (pid, asks pid)
  once : (arrived ++ pending).Nodup
  received : state.received = arrived.map fun pid => (asks pid).memory.bytes
  opened : state.opened = opened.map .fifoc
  replied : state.replied = replied.map fun pid => (.fifoc pid, (asks pid).answer reply)
  framed : NamedPipe.Framed msgSize (state.queue .fifos)
    (pending.map fun pid => (asks pid).memory.bytes)

/-- The server handles one request at a time. -/
inductive Serving (asks : Pid → Msgtype) (reply : Content maxData) (state : State) : Prop where
  | read (served pending : List Pid) (here : state.fifos.point = .read)
      (logs : Logs asks reply state served served served pending)
  | open (served pending : List Pid) (pid : Pid) (here : state.fifos.point = .open)
      (msg : state.fifos.msg = asks pid)
      (logs : Logs asks reply state (served ++ [pid]) served served pending)
  | write (served pending : List Pid) (pid : Pid) (here : state.fifos.point = .write)
      (msg : state.fifos.msg = asks pid) (cfd : state.fifos.cfd = some (.fifoc pid))
      (logs : Logs asks reply state (served ++ [pid]) (served ++ [pid]) served pending)
  | close (served pending : List Pid) (here : state.fifos.point = .close)
      (logs : Logs asks reply state served served served pending)

/-- The server reads whole requests, opens the sender's FIFO, and each client reads its own answer. -/
structure Answered (asks : Pid → Msgtype) (reply : Content maxData) (state : State) : Prop where
  sound : state.fifos.point ≠ .failed ∧ ∀ pid, (state.fifoc pid).point ≠ .failed
  request : ∀ entry ∈ state.sent, entry.2 = asks entry.1
  once : (state.sent.map Prod.fst).Nodup
  whole : state.received <+: state.sent.map fun entry => entry.2.memory.bytes
  found : state.opened <+: state.sent.map fun entry => .fifoc entry.1
  answers : state.replied <+: state.sent.map fun entry => (.fifoc entry.1, entry.2.answer reply)
  own : ∀ pid, if (state.fifoc pid).point.answered then
      ∃ msg, (pid, msg) ∈ state.sent ∧
        (state.fifoc pid).replies = [(msg.answer reply).memory.bytes]
    else (state.fifoc pid).replies = []

/-- Each client has not started or is done, and the server has answered all requests. -/
structure Settled (reply : Content maxData) (state : State) : Prop where
  clients : ∀ pid, (state.fifoc pid).point = .mkfifo ∨ (state.fifoc pid).point = .done
  replied : state.replied = state.sent.map fun entry => (.fifoc entry.1, entry.2.answer reply)

/-- All clients stand, and the server handles their requests in the order of their arrival. -/
structure Consistent (asks content : Pid → Msgtype) (reply : Content maxData) (state : State) :
    Prop where
  listens : state.directory (resolve servFifo) = some .fifos
  stands : ∀ pid, Stands asks content reply state pid
  serving : Serving asks reply state

section Steps
variable {capacity : Nat} {asks content : Pid → Msgtype} {reply : Content maxData}
  {state later : State} {arrived opened replied pending : List Pid}

/-- The logs of a request list the client exactly once. -/
theorem Logs.asked (logs : Logs asks reply state arrived opened replied pending) (pid : Pid) :
    pid ∈ state.sent.map Prod.fst ↔ pid ∈ arrived ++ pending := by
  rw [logs.sent, List.map_map]
  simp

/-- The server has written to the clients in its log. -/
theorem Logs.served (logs : Logs asks reply state arrived opened replied pending) (pid : Pid) :
    state.served pid ↔ pid ∈ replied := by
  rw [State.served, logs.replied, List.map_map]
  simp

/-- A step that keeps the logs and the server's FIFO keeps the requests. -/
theorem Logs.frame (logs : Logs asks reply state arrived opened replied pending)
    (sent : later.sent = state.sent) (received : later.received = state.received)
    (opens : later.opened = state.opened) (replies : later.replied = state.replied)
    (queue : later.queue .fifos = state.queue .fifos) :
    Logs asks reply later arrived opened replied pending := by
  obtain ⟨sends, once, receives, opening, replying, framed⟩ := logs
  exact ⟨sent.trans sends, once, received.trans receives, opens.trans opening,
    replies.trans replying, queue ▸ framed⟩

/-- A client's request is the last one in the server's FIFO. -/
theorem Logs.send (logs : Logs asks reply state arrived opened replied pending) {pid : Pid}
    (fresh : pid ∉ state.sent.map Prod.fst) {queue : List UInt8}
    (written : NamedPipe.write capacity (state.queue .fifos) (asks pid).memory.bytes = some queue)
    (sent : later.sent = state.sent ++ [(pid, asks pid)])
    (received : later.received = state.received) (opens : later.opened = state.opened)
    (replies : later.replied = state.replied) (queue' : later.queue .fifos = queue) :
    Logs asks reply later arrived opened replied (pending ++ [pid]) := by
  rw [logs.asked] at fresh
  refine ⟨?_, ?_, received.trans logs.received, opens.trans logs.opened,
    replies.trans logs.replied, ?_⟩
  · rw [sent, logs.sent]
    simp
  · rw [← List.append_assoc, ← List.concat_eq_append]
    exact logs.once.concat fresh
  · rw [queue', List.map_append, List.map_singleton]
    exact logs.framed.write (Buffer.sized _) written

/-- A client's step keeps the server. -/
theorem serving_of_clientStep {pid : Pid} (serving : Serving asks reply state)
    (stands : Stands asks content reply state pid)
    (step : ClientStep capacity asks reply state pid later) : Serving asks reply later := by
  have server : later.fifos = state.fifos := by cases step <;> rfl
  have kept {arrived opened replied pending : List Pid}
      (logs : Logs asks reply state arrived opened replied pending) :
      ∃ pending, Logs asks reply later arrived opened replied pending := by
    cases step with
    | write here queue written =>
        refine ⟨_, logs.send ?_ written rfl rfl rfl rfl (by simp)⟩
        rw [stands.sent, here]
        simp
    | mkfifo | openOwn | openServer | read | closeOwn | closeServer | remove =>
        exact ⟨_, logs.frame rfl rfl rfl rfl (by simp [State.setClient, State.acquire, State.release])⟩
  cases serving with
  | read served pending here logs =>
      obtain ⟨rest, logs⟩ := kept logs
      exact .read served rest (server ▸ here) logs
  | «open» served pending pid here msg logs =>
      obtain ⟨rest, logs⟩ := kept logs
      exact .open served rest pid (server ▸ here) (server ▸ msg) logs
  | write served pending pid here msg cfd logs =>
      obtain ⟨rest, logs⟩ := kept logs
      exact .write served rest pid (server ▸ here) (server ▸ msg) (server ▸ cfd) logs
  | close served pending here logs =>
      obtain ⟨rest, logs⟩ := kept logs
      exact .close served rest (server ▸ here) logs

/-- A client whose request is not answered yet waits in its read. -/
theorem point_of_waiting {pid : Pid} (stands : Stands asks content reply state pid)
    (asked : pid ∈ state.sent.map Prod.fst) (waits : ¬ state.served pid) :
    (state.fifoc pid).point = .read := by
  have sent := stands.sent.mp asked
  cases here : (state.fifoc pid).point with
  | read => rfl
  | closeOwn | closeServer | remove | done =>
      exact absurd (stands.served (by rw [here]; rfl)) waits
  | mkfifo | openOwn | openServer | write | failed =>
      rw [here] at sent
      cases sent

/-- The request that the server handles comes from a client that waits in its read with an empty FIFO. -/
theorem waiting_of_current {pid : Pid} (stands : ∀ pid, Stands asks content reply state pid)
    {served : List Pid} (logs : Logs asks reply state (served ++ [pid]) opened served pending) :
    (state.fifoc pid).point = .read ∧ state.readers (.fifoc pid) = 1 ∧
      state.queue (.fifoc pid) = [] := by
  have once := logs.once
  have waits : ¬ state.served pid := by
    rw [logs.served]
    intro before
    rw [List.append_assoc, List.singleton_append, List.nodup_append] at once
    exact once.2.2 pid before pid List.mem_cons_self rfl
  have here := point_of_waiting (stands pid) ((logs.asked pid).mpr (by simp)) waits
  have readers := (stands pid).readers
  rw [here] at readers
  exact ⟨here, readers, (stands pid).idle fun _ => waits⟩

/-- The name in the current request leads to the FIFO of its sender. -/
theorem lookup_current {pid : Pid} (stands : Stands asks content reply state pid)
    (named : (asks pid).memory.read = some (fname pid).bytes)
    (here : (state.fifoc pid).point = .read) (msg : state.fifos.msg = asks pid) :
    state.fifos.msg.memory.read.bind state.lookup = some (.fifoc pid) := by
  have directory := stands.directory
  rw [here] at directory
  rw [msg, named, Option.bind_some, State.lookup, resolve_fname, directory]
  rfl

/-- The server reads exactly the first pending request. -/
theorem read_step (listens : state.directory (resolve servFifo) = some .fifos)
    (stands : ∀ pid, Stands asks content reply state pid) {served : List Pid}
    (logs : Logs asks reply state served served served pending)
    (moved : state.serverRead = some later) :
    Consistent asks content reply later := by
  obtain ⟨⟨bytes, queue⟩, read, rfl⟩ := Option.map_eq_some_iff.mp moved
  obtain ⟨rest, first, framed⟩ := logs.framed.read read
  obtain ⟨pid, others, rfl, rfl, rfl⟩ := List.map_eq_cons_iff.mp first
  refine ⟨listens, fun other => (stands other).frame ⟨rfl, rfl, rfl, by simp, Iff.rfl, Iff.rfl⟩, ?_⟩
  refine .open served others pid rfl (receive_memory _ _) ⟨?_, ?_, ?_, logs.opened, logs.replied, ?_⟩
  · rw [List.append_assoc]
    exact logs.sent
  · rw [List.append_assoc]
    exact logs.once
  · simp [logs.received]
  · simpa using framed

/-- The server opens the FIFO of the client whose request it has read. -/
theorem open_step (listens : state.directory (resolve servFifo) = some .fifos)
    (stands : ∀ pid, Stands asks content reply state pid)
    (named : ∀ pid, (asks pid).memory.read = some (fname pid).bytes) {served : List Pid} {pid : Pid}
    (msg : state.fifos.msg = asks pid)
    (logs : Logs asks reply state (served ++ [pid]) served served pending)
    (moved : state.serverOpen = some later) :
    Consistent asks content reply later := by
  obtain ⟨here, readers, _⟩ := waiting_of_current stands logs
  have finds := lookup_current (stands pid) (named pid) here msg
  simp only [State.serverOpen, finds, readers, Nat.one_ne_zero, if_false, Option.some.injEq] at moved
  subst moved
  refine ⟨listens, fun other => (stands other).frame ⟨rfl, rfl, rfl, rfl, Iff.rfl, Iff.rfl⟩, ?_⟩
  refine .write served pending pid rfl msg rfl
    ⟨logs.sent, logs.once, logs.received, ?_, logs.replied, logs.framed⟩
  simp [logs.opened]

/-- The server writes its answer to the FIFO of the client whose request it has read. -/
theorem write_step (listens : state.directory (resolve servFifo) = some .fifos)
    (stands : ∀ pid, Stands asks content reply state pid) {served : List Pid} {pid : Pid}
    (msg : state.fifos.msg = asks pid) (cfd : state.fifos.cfd = some (.fifoc pid))
    (logs : Logs asks reply state (served ++ [pid]) (served ++ [pid]) served pending)
    (moved : state.serverWrite capacity reply = some later) :
    Consistent asks content reply later := by
  obtain ⟨here, reads, empty⟩ := waiting_of_current stands logs
  simp only [State.serverWrite, cfd, msg, Option.bind_some, reads, Nat.one_ne_zero, if_false,
    empty] at moved
  obtain ⟨queue, written, rfl⟩ := Option.map_eq_some_iff.mp moved
  have whole : queue = ((asks pid).answer reply).memory.bytes := by
    simp only [NamedPipe.write, Option.ite_none_right_eq_some, Option.some.injEq] at written
    exact written.2.symm
  subst whole
  have stays := stands pid
  refine ⟨listens, fun other => ?_, ?_⟩
  · by_cases own : other = pid
    · subst own
      obtain ⟨sound, directory, fd, readers, sfd, msg, sent, _, _, _, _, replies⟩ := stays
      refine ⟨sound, directory, fd, readers, sfd, msg, sent, fun _ => ?_, fun _ => ?_, fun _ _ => ?_,
        fun idle => ?_, replies⟩
      · simp [State.served]
      · simp [here]
      · simp
      · exact absurd (by simp [State.served]) (idle here)
    · have process : Process.fifoc other ≠ .fifoc pid := fun same => own (Process.fifoc.inj same)
      refine (stands other).frame ⟨rfl, rfl, rfl, by simp [process], Iff.rfl, ?_⟩
      simp [State.served, own]
  · refine .close (served ++ [pid]) pending rfl
      ⟨logs.sent, logs.once, logs.received, logs.opened, ?_, ?_⟩
    · simp [logs.replied]
    · simpa using logs.framed

/-- Each step keeps a consistent state. -/
theorem consistent_step {request : Pid → Content maxData}
    (consistent : Consistent (Fifos.asks request content) content reply state) {process : Process}
    (moved : state.next capacity request reply process = some later) :
    Consistent (Fifos.asks request content) content reply later := by
  obtain ⟨listens, stands, serving⟩ := consistent
  cases process with
  | fifoc pid =>
      have step := clientStep_of_client (stands pid) listens moved
      refine ⟨?_, fun other => ?_, serving_of_clientStep serving (stands pid) step⟩
      · have name := (fname_ne_servFifo pid).symm
        cases step <;> simp [State.setClient, State.acquire, State.release, listens, name]
      · by_cases own : other = pid
        · subst own
          exact stands_of_clientStep (stands other) step
        · exact (stands other).frame (agrees_of_clientStep step own)
  | fifos =>
      have named (pid : Pid) : (Fifos.asks request content pid).memory.read = some (fname pid).bytes :=
        read_ask _ _ _ (fname_clean pid)
      cases serving with
      | read served pending here logs =>
          simp only [State.next, State.server, here] at moved
          exact read_step listens stands logs moved
      | «open» served pending pid here msg logs =>
          simp only [State.next, State.server, here] at moved
          exact open_step listens stands named msg logs moved
      | write served pending pid here msg cfd logs =>
          simp only [State.next, State.server, here] at moved
          exact write_step listens stands msg cfd logs moved
      | close served pending here logs =>
          simp only [State.next, State.server, here, Option.some.injEq] at moved
          subst moved
          refine ⟨listens,
            fun other => (stands other).frame ⟨rfl, rfl, rfl, rfl, Iff.rfl, Iff.rfl⟩, ?_⟩
          exact .read served pending rfl (logs.frame rfl rfl rfl rfl rfl)

/-- At the start nobody has sent a request. -/
theorem consistent_start (asks content : Pid → Msgtype) (reply : Content maxData)
    (stale : Msgtype) : Consistent asks content reply (start stale content) := by
  refine ⟨by simp [start], fun pid => ?_, .read [] [] rfl ?_⟩
  · have name := fname_ne_servFifo pid
    constructor <;> simp [start, State.served, name]
  · exact ⟨rfl, List.nodup_nil, rfl, rfl, rfl, .nil _⟩

/-- Each reachable state is consistent. -/
theorem reachable_consistent {request : Pid → Content maxData} {stale : Msgtype}
    (reached : (system capacity request reply stale content).Reachable state) :
    Consistent (Fifos.asks request content) content reply state := by
  apply reached.invariant (Consistent (Fifos.asks request content) content reply)
  · rintro state rfl
    exact consistent_start _ _ _ _
  · exact fun state process later _ consistent moved => consistent_step consistent moved

/-- The logs of the server are beginnings of the requests. -/
theorem Logs.beginnings (logs : Logs asks reply state arrived opened replied pending)
    (opens : opened <+: arrived) (replies : replied <+: arrived) :
    (state.received <+: state.sent.map fun entry => entry.2.memory.bytes) ∧
      (state.opened <+: state.sent.map fun entry => .fifoc entry.1) ∧
      (state.replied <+: state.sent.map fun entry => (.fifoc entry.1, entry.2.answer reply)) := by
  have arrives : arrived <+: arrived ++ pending := List.prefix_append _ _
  rw [logs.received, logs.opened, logs.replied, logs.sent]
  simp only [List.map_map]
  exact ⟨arrives.map _, (opens.trans arrives).map _, (replies.trans arrives).map _⟩

/-- The server of a consistent state has logs whose lists are beginnings of the arrived requests. -/
theorem logs_of_serving (serving : Serving asks reply state) :
    state.fifos.point ≠ .failed ∧ ∃ arrived opened replied pending,
      opened <+: arrived ∧ replied <+: arrived ∧
        Logs asks reply state arrived opened replied pending := by
  cases serving with
  | read served pending here logs =>
      exact ⟨by simp [here], _, _, _, _, List.prefix_rfl, List.prefix_rfl, logs⟩
  | «open» served pending pid here msg logs =>
      exact ⟨by simp [here], _, _, _, _, List.prefix_append _ _, List.prefix_append _ _, logs⟩
  | write served pending pid here msg cfd logs =>
      exact ⟨by simp [here], _, _, _, _, List.prefix_rfl, List.prefix_append _ _, logs⟩
  | close served pending here logs =>
      exact ⟨by simp [here], _, _, _, _, List.prefix_rfl, List.prefix_rfl, logs⟩

/-- A consistent state gives each client its own answer. -/
theorem answered_of_consistent (consistent : Consistent asks content reply state) :
    Answered asks reply state := by
  obtain ⟨_, stands, serving⟩ := consistent
  obtain ⟨sound, arrived, opened, replied, pending, opens, replies, logs⟩ := logs_of_serving serving
  obtain ⟨whole, found, answers⟩ := logs.beginnings opens replies
  refine ⟨⟨sound, fun pid => (stands pid).sound⟩, ?_, ?_, whole, found, answers, fun pid => ?_⟩
  · intro entry member
    rw [logs.sent] at member
    obtain ⟨pid, _, rfl⟩ := List.mem_map.mp member
    rfl
  · have names : Prod.fst ∘ (fun pid => (pid, asks pid)) = id := rfl
    rw [logs.sent, List.map_map, names, List.map_id]
    exact logs.once
  · have read := (stands pid).replies
    split
    case isTrue done =>
        rw [if_pos done] at read
        refine ⟨asks pid, ?_, read⟩
        have asked : (state.fifoc pid).point.asked = true := by
          cases here : (state.fifoc pid).point <;> simp_all
        rw [logs.sent]
        exact List.mem_map_of_mem ((logs.asked pid).mp ((stands pid).sent.mpr asked))
    case isFalse open' =>
        rw [if_neg open'] at read
        exact read

/-- The server of a consistent state waits only for a request. -/
theorem idle_of_stuck (consistent : Consistent asks content reply state)
    (named : ∀ pid, (asks pid).memory.read = some (fname pid).bytes) (room : msgSize ≤ capacity)
    (stuck : state.server capacity reply = none) :
    state.queue .fifos = [] ∧ ∃ served, Logs asks reply state served served served [] := by
  obtain ⟨_, stands, serving⟩ := consistent
  cases serving with
  | read served pending here logs =>
      simp only [State.server, here, State.serverRead, Option.map_eq_none_iff] at stuck
      obtain ⟨empty, none⟩ := logs.framed.empty (by decide) stuck
      cases List.map_eq_nil_iff.mp none
      exact ⟨empty, served, logs⟩
  | «open» served pending pid here msg logs =>
      obtain ⟨waits, readers, _⟩ := waiting_of_current stands logs
      have finds := lookup_current (stands pid) (named pid) waits msg
      simp [State.server, here, State.serverOpen, finds, readers] at stuck
  | write served pending pid here msg cfd logs =>
      obtain ⟨waits, readers, empty⟩ := waiting_of_current stands logs
      have fits : NamedPipe.write capacity [] ((asks pid).answer reply).memory.bytes = some _ :=
        NamedPipe.write_nil ((Nat.le_of_eq (Buffer.sized _)).trans room)
      simp [State.server, here, State.serverWrite, cfd, msg, readers, empty, fits] at stuck
  | close served pending here logs => simp [State.server, here] at stuck

/-- A client that cannot go on has not failed, and it waits for a reply or is done. -/
theorem blocked_of_stuck {request : Pid → Content maxData} {pid : Pid}
    (stands : Stands (Fifos.asks request content) content reply state pid)
    (room : msgSize ≤ capacity) (empty : state.queue .fifos = [])
    (stuck : state.client capacity request pid = none) :
    (state.fifoc pid).point = .done ∨
      (state.fifoc pid).point = .read ∧ state.queue (.fifoc pid) = [] := by
  cases here : (state.fifoc pid).point with
  | done => exact Or.inl rfl
  | read =>
      have fd := stands.fd (by rw [here]; rfl)
      simp only [State.client, here, State.receive, fd, Option.bind_some,
        Option.map_eq_none_iff] at stuck
      exact Or.inr ⟨rfl, NamedPipe.eq_nil_of_read stuck⟩
  | write =>
      have sfd := stands.sfd (by rw [here]; rfl)
      have fits : NamedPipe.write capacity []
          ((state.fifoc pid).msg.ask (fname pid) (request pid)).memory.bytes = some _ :=
        NamedPipe.write_nil ((Nat.le_of_eq (Buffer.sized _)).trans room)
      simp [State.client, here, State.send, sfd, empty, fits] at stuck
  | failed => exact absurd here stands.sound
  | mkfifo | openOwn | openServer | closeOwn | closeServer | remove =>
      simp [State.client, here] at stuck

/-- When no client that has started and not the server can go on, all clients have their answers. -/
theorem settled_of_stuck {request : Pid → Content maxData} {stale : Msgtype}
    (consistent : Consistent (Fifos.asks request content) content reply state)
    (room : msgSize ≤ capacity)
    (stuck : (system capacity request reply stale content).Stuck
      (fun process => ∀ pid, process = .fifoc pid → (state.fifoc pid).point ≠ .mkfifo) state) :
    Settled reply state := by
  have server : state.server capacity reply = none := stuck .fifos fun _ same => by cases same
  obtain ⟨empty, served, logs⟩ := idle_of_stuck consistent
    (fun pid => read_ask _ _ _ (fname_clean pid)) room server
  obtain ⟨listens, stands, _⟩ := consistent
  refine ⟨fun pid => ?_, ?_⟩
  · by_cases fresh : (state.fifoc pid).point = .mkfifo
    · exact Or.inl fresh
    · have client : state.client capacity request pid = none :=
        stuck (.fifoc pid) fun other same => by
          cases same
          exact fresh
      refine Or.inr ((blocked_of_stuck (stands pid) room empty client).resolve_right ?_)
      rintro ⟨here, nothing⟩
      have asked := (logs.asked pid).mp ((stands pid).sent.mpr (by rw [here]; rfl))
      rw [List.append_nil] at asked
      have reply := (stands pid).waits here ((logs.served pid).mpr asked)
      have length := congrArg List.length (nothing.symm.trans reply)
      rw [Buffer.sized] at length
      cases length
  · rw [logs.replied, logs.sent, List.append_nil, List.map_map]
    rfl

end Steps

/-- The server answers each request once, and each client reads the answer to its own request. -/
theorem answersClients (capacity : Nat) (room : msgSize ≤ capacity)
    (request : Pid → Content maxData) (reply : Content maxData) (stale : Msgtype)
    (content : Pid → Msgtype) (state : State)
    (reached : (system capacity request reply stale content).Reachable state) :
    Answered (asks request content) reply state ∧
      ((system capacity request reply stale content).Stuck
        (fun process => ∀ pid, process = .fifoc pid → (state.fifoc pid).point ≠ .mkfifo) state →
          Settled reply state) := by
  have consistent := reachable_consistent reached
  exact ⟨answered_of_consistent consistent, settled_of_stuck consistent room⟩

/-- Two clients send their requests at once, and the second one reads its own answer. -/
theorem answersClients_run : ∃ state,
    (system 65536 requestText (replyText 1) ⟨.fill _ 0, .fill _ 0⟩
      fun _ => ⟨.fill _ 255, .fill _ 255⟩).Reachable state ∧
    ∃ msg, (8, msg) ∈ state.sent ∧
      (state.fifoc 8).replies = [(msg.answer (replyText 1)).memory.bytes] := by
  obtain ⟨state, reached, facts⟩ := (system 65536 requestText (replyText 1)
    ⟨.fill _ 0, .fill _ 0⟩ fun _ => ⟨.fill _ 255, .fill _ 255⟩).exists_reachable _ rfl
    (List.replicate 4 (.fifoc 7) ++ List.replicate 4 (.fifoc 8) ++ List.replicate 8 .fifos ++
      [.fifoc 8])
    (fun state => (state.fifoc 8).point.answered) (by decide +kernel)
  refine ⟨state, reached, ?_⟩
  have own := (answersClients 65536 (by decide) requestText (replyText 1) _ _ state reached).1.own 8
  rw [if_pos facts] at own
  exact own

end Fifos

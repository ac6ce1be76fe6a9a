import LinuxSystemProgramming.Proof.Fifos.Message

namespace Fifos
open Transition CString

/-- The name of the client's FIFO is in the directory. -/
@[simp] def ClientPoint.present : ClientPoint → Bool
  | .openOwn | .openServer | .write | .read | .closeOwn | .closeServer | .remove => true
  | .mkfifo | .done | .failed => false

/-- The client has its own FIFO open. -/
@[simp] def ClientPoint.opened : ClientPoint → Bool
  | .openServer | .write | .read | .closeOwn => true
  | _ => false

/-- The client has the server's FIFO open. -/
@[simp] def ClientPoint.connected : ClientPoint → Bool
  | .write | .read | .closeOwn | .closeServer => true
  | _ => false

/-- The client has sent its request. -/
@[simp] def ClientPoint.asked : ClientPoint → Bool
  | .read | .closeOwn | .closeServer | .remove | .done => true
  | _ => false

/-- The client has read its reply. -/
@[simp] def ClientPoint.answered : ClientPoint → Bool
  | .closeOwn | .closeServer | .remove | .done => true
  | _ => false

/-- The server has written to a client's FIFO. -/
def State.served (state : State) (pid : Pid) : Prop := .fifoc pid ∈ state.replied.map Prod.fst

/-- The parts of the state that belong to a client agree with its point. -/
structure Stands (asks content : Pid → Msgtype) (reply : Content maxData) (state : State)
    (pid : Pid) : Prop where
  sound : (state.fifoc pid).point ≠ .failed
  directory : state.directory (fname pid).bytes =
    if (state.fifoc pid).point.present then some (.fifoc pid) else none
  fd : (state.fifoc pid).point.opened = true → (state.fifoc pid).fd = some (.fifoc pid)
  readers : state.readers (.fifoc pid) = if (state.fifoc pid).point.opened then 1 else 0
  sfd : (state.fifoc pid).point.connected = true → (state.fifoc pid).sfd = some .fifos
  msg : (state.fifoc pid).point.asked = false → (state.fifoc pid).msg = content pid
  sent : pid ∈ state.sent.map Prod.fst ↔ (state.fifoc pid).point.asked = true
  served : (state.fifoc pid).point.answered = true → state.served pid
  early : state.served pid → (state.fifoc pid).point.asked = true
  waits : (state.fifoc pid).point = .read → state.served pid →
    state.queue (.fifoc pid) = ((asks pid).answer reply).memory.bytes
  idle : ((state.fifoc pid).point = .read → ¬ state.served pid) → state.queue (.fifoc pid) = []
  replies : (state.fifoc pid).replies =
    if (state.fifoc pid).point.answered then [((asks pid).answer reply).memory.bytes] else []

/-- Two states agree on the parts of a client. -/
structure Agrees (state later : State) (pid : Pid) : Prop where
  client : later.fifoc pid = state.fifoc pid
  directory : later.directory (fname pid).bytes = state.directory (fname pid).bytes
  readers : later.readers (.fifoc pid) = state.readers (.fifoc pid)
  queue : later.queue (.fifoc pid) = state.queue (.fifoc pid)
  sent : pid ∈ later.sent.map Prod.fst ↔ pid ∈ state.sent.map Prod.fst
  served : later.served pid ↔ state.served pid

/-- A client's request. -/
def asks (request : Pid → Content maxData) (content : Pid → Msgtype) (pid : Pid) : Msgtype :=
  (content pid).ask (fname pid) (request pid)

/-- A client's step succeeds in one of these ways. -/
inductive ClientStep (capacity : Nat) (asks : Pid → Msgtype) (reply : Content maxData)
    (state : State) (pid : Pid) : State → Prop where
  | mkfifo (here : (state.fifoc pid).point = .mkfifo) : ClientStep capacity asks reply state pid
      { state.setClient pid { state.fifoc pid with point := .openOwn } with
        directory := Function.update state.directory (fname pid).bytes (some (.fifoc pid))
        queue := Function.update state.queue (.fifoc pid) [] }
  | openOwn (here : (state.fifoc pid).point = .openOwn) : ClientStep capacity asks reply state pid
      ((state.acquire (.fifoc pid)).setClient pid
        { state.fifoc pid with point := .openServer, fd := some (.fifoc pid) })
  | openServer (here : (state.fifoc pid).point = .openServer) :
      ClientStep capacity asks reply state pid
        ((state.acquire .fifos).setClient pid
          { state.fifoc pid with point := .write, sfd := some .fifos })
  | write (here : (state.fifoc pid).point = .write) (queue : List UInt8)
      (written : NamedPipe.write capacity (state.queue .fifos) (asks pid).memory.bytes = some queue) :
      ClientStep capacity asks reply state pid
        { state.setClient pid { state.fifoc pid with point := .read, msg := asks pid } with
          queue := Function.update state.queue .fifos queue
          sent := state.sent ++ [(pid, asks pid)] }
  | read (here : (state.fifoc pid).point = .read) (served : state.served pid) :
      ClientStep capacity asks reply state pid
        { state.setClient pid
            { state.fifoc pid with
              point := .closeOwn
              msg := (asks pid).answer reply
              replies := [((asks pid).answer reply).memory.bytes] } with
          queue := Function.update state.queue (.fifoc pid) [] }
  | closeOwn (here : (state.fifoc pid).point = .closeOwn) : ClientStep capacity asks reply state pid
      ((state.release (some (.fifoc pid))).setClient pid
        { state.fifoc pid with point := .closeServer, fd := none })
  | closeServer (here : (state.fifoc pid).point = .closeServer) :
      ClientStep capacity asks reply state pid
        ((state.release (some .fifos)).setClient pid
          { state.fifoc pid with point := .remove, sfd := none })
  | remove (here : (state.fifoc pid).point = .remove) : ClientStep capacity asks reply state pid
      { state.setClient pid { state.fifoc pid with point := .done } with
        directory := Function.update state.directory (fname pid).bytes none }

section Steps
variable {capacity : Nat} {request : Pid → Content maxData} {reply : Content maxData}
  {content : Pid → Msgtype} {state later : State} {pid : Pid}

/-- A client stands as before when its parts agree. -/
theorem Stands.frame {asks : Pid → Msgtype} (stands : Stands asks content reply state pid)
    (agrees : Agrees state later pid) : Stands asks content reply later pid := by
  obtain ⟨client, directory, readers, queue, sent, served⟩ := agrees
  constructor
  all_goals
    simp only [client, directory, readers, queue, sent, served]
  · exact stands.sound
  · exact stands.directory
  · exact stands.fd
  · exact stands.readers
  · exact stands.sfd
  · exact stands.msg
  · exact stands.sent
  · exact stands.served
  · exact stands.early
  · exact stands.waits
  · exact stands.idle
  · exact stands.replies

/-- A client that stands does not fail. -/
theorem clientStep_of_client (stands : Stands (asks request content) content reply state pid)
    (listens : state.directory (resolve servFifo) = some .fifos)
    (moved : state.client capacity request pid = some later) :
    ClientStep capacity (asks request content) reply state pid later := by
  have name := stands.directory
  cases here : (state.fifoc pid).point with
  | mkfifo =>
      rw [here] at name
      simp [State.client, here, State.mkfifo, State.lookup, resolve_fname, name, ClientPoint.present]
        at moved
      exact moved ▸ .mkfifo here
  | openOwn =>
      rw [here] at name
      simp [State.client, here, State.openOwn, State.lookup, resolve_fname, name,
        ClientPoint.present] at moved
      exact moved ▸ .openOwn here
  | openServer =>
      simp [State.client, here, State.openServer, State.lookup, listens] at moved
      exact moved ▸ .openServer here
  | write =>
      have sfd := stands.sfd (by rw [here]; rfl)
      have msg : (state.fifoc pid).msg.ask (fname pid) (request pid) = asks request content pid := by
        rw [stands.msg (by rw [here]; rfl), asks]
      simp only [State.client, here, State.send, msg] at moved
      obtain ⟨fifo, connected, wrote⟩ := Option.bind_eq_some_iff.mp moved
      rw [sfd] at connected
      cases connected
      obtain ⟨queue, written, rfl⟩ := Option.map_eq_some_iff.mp wrote
      exact .write here queue written
  | read =>
      have fd := stands.fd (by rw [here]; rfl)
      have before : (state.fifoc pid).replies = [] := by
        rw [stands.replies, here]
        rfl
      simp only [State.client, here, State.receive, before] at moved
      obtain ⟨fifo, opened, returned⟩ := Option.bind_eq_some_iff.mp moved
      rw [fd] at opened
      cases opened
      obtain ⟨⟨bytes, queue⟩, read, rfl⟩ := Option.map_eq_some_iff.mp returned
      by_cases served : state.served pid
      · rw [stands.waits here served] at read
        obtain ⟨rfl, rfl⟩ := NamedPipe.read_record (Buffer.sized _) read
        simp only [receive_memory, List.nil_append]
        exact .read here served
      · rw [stands.idle fun _ => served] at read
        cases read
  | closeOwn =>
      have fd := stands.fd (by rw [here]; rfl)
      simp only [State.client, here, fd, Option.some.injEq] at moved
      exact moved ▸ .closeOwn here
  | closeServer =>
      have sfd := stands.sfd (by rw [here]; rfl)
      simp only [State.client, here, sfd, Option.some.injEq] at moved
      exact moved ▸ .closeServer here
  | remove =>
      rw [here] at name
      simp [State.client, here, State.remove, State.lookup, resolve_fname, name,
        ClientPoint.present] at moved
      exact moved ▸ .remove here
  | done => simp [State.client, here] at moved
  | failed => exact absurd here stands.sound

/-- A client's step keeps the parts of the other clients. -/
theorem agrees_of_clientStep {asks : Pid → Msgtype} (step : ClientStep capacity asks reply state pid later)
    {other : Pid} (different : other ≠ pid) : Agrees state later other := by
  have process : Process.fifoc other ≠ .fifoc pid := fun same => different (Process.fifoc.inj same)
  have name : (fname other).bytes ≠ (fname pid).bytes := fun same => different (fname_injective same)
  cases step with
  | mkfifo | openOwn | openServer | read | closeOwn | closeServer | remove =>
      constructor <;> simp [State.setClient, State.acquire, State.release, State.served, different,
        process, name]
  | write here queue written =>
      constructor <;> simp [State.setClient, State.served, different]

/-- A client's step leaves the client standing. -/
theorem stands_of_clientStep {asks : Pid → Msgtype} (stands : Stands asks content reply state pid)
    (step : ClientStep capacity asks reply state pid later) :
    Stands asks content reply later pid := by
  obtain ⟨sound, directory, fd, readers, sfd, msg, sent, served, early, waits, idle, replies⟩ := stands
  cases step with
  | mkfifo here | openOwn here | openServer here | closeOwn here | closeServer here | remove here =>
      simp [here, State.served, -List.mem_map] at *
      constructor <;>
        simp [State.setClient, State.acquire, State.release, State.served, -List.mem_map, *]
  | write here queue written =>
      simp [here, State.served, -List.mem_map] at *
      constructor <;> simp [State.setClient, State.served, -List.mem_map, *]
  | read here answered =>
      simp [here, State.served, -List.mem_map] at *
      constructor <;> simp [State.setClient, State.served, -List.mem_map, *]

end Steps

end Fifos

import LinuxSystemProgramming.Library.Transition
import LinuxSystemProgramming.Library.CString
import Mathlib.Data.Finset.Basic
import Mathlib.Data.Fintype.Basic

namespace Chats
open Transition CString

/-- `MAX_CLIENT` is the number of slots. -/
def maxClient : Nat := 5

/-- `MAX_ID` is the size of the buffer for an ID. -/
def maxId : Nat := 32

/-- `MAX_BUF` is the size of the buffer for a message. -/
def maxBuf : Nat := 256

/-- `sockIdx` has this many entries. -/
def maxSock : Nat := 256

/-- A slot has the fields of `ClientType` except `tid`, which the program never uses. -/
structure ClientType where
  sockfd : Nat
  inUse : Bool
  uid : Buffer maxId
  first : Bool
  deriving DecidableEq

/-- These bytes are `"> "`, which the format of `SendToOtherClients` puts between ID and text. -/
def mark : List UInt8 := [62, 32]

/-- These bytes are `"log-out.....\n"`. -/
def logOut : List UInt8 := [108, 111, 103, 45, 111, 117, 116, 46, 46, 46, 46, 46, 10]

/-- A frame is the formatted message with its terminating zero. -/
def frame (uid text : List UInt8) : List UInt8 := uid ++ mark ++ text ++ [0]

/-- The buffer of a message is large enough for the notice of a log-out. -/
theorem logOut_fits : (logOut ++ [0]).length ≤ maxBuf := by decide

/-- A served client stores its ID first, and later it fills the buffer that goes to the others. -/
def ClientType.process (client : ClientType) (stale : Buffer maxBuf) (received : List UInt8) :
    Option (ClientType × Option (Buffer maxBuf)) :=
  if client.first = false then
    if fits : received.length ≤ maxId then
      some ({ client with uid := client.uid.write received fits, first := true }, none)
    else none
  else if fits : received.length ≤ maxBuf then
    if received = [] then
      some ({ client with inUse := false }, some (stale.write (logOut ++ [0]) logOut_fits))
    else some (client, some (stale.write received fits))
  else none

/-- The history records the connections that were accepted and what was received on them. -/
inductive Event where
  | accepted (connection : Nat)
  | received (connection : Nat) (bytes : List UInt8)
  deriving DecidableEq

/-- The state has the globals and locals of `main`, the open connections, and what was sent on each one. -/
structure State where
  client : Fin maxClient → ClientType
  reads : Finset Nat
  cpyReads : Finset Nat
  fdMax : Nat
  sockIdx : Nat → Nat
  pass : Option Nat
  connection : Nat → Option Nat
  opened : Nat
  sent : Nat → List (List UInt8)
  history : List Event

/-- `GetID` takes the first slot that is not in use, and it returns no value when there is none. -/
def getID (client : Fin maxClient → ClientType) : Option (Fin maxClient) :=
  (List.finRange maxClient).find? fun id => !(client id).inUse

/-- `send` appends a frame to the connection behind the descriptor. -/
def State.send (state : State) (sockfd : Nat) (msg : List UInt8) : State :=
  match state.connection sockfd with
  | some connection =>
      { state with
        sent := Function.update state.sent connection (state.sent connection ++ [msg]) }
  | none => state

/-- The loop of `SendToOtherClients` sends the message to each other slot in use. -/
def State.sendOthers (state : State) (id : Fin maxClient) (msg : List UInt8) : State :=
  (List.finRange maxClient).foldl
    (fun later slot =>
      if (state.client slot).inUse && decide (slot ≠ id) then
        later.send (state.client slot).sockfd msg
      else later)
    state

/-- `SendToOtherClients` formats the ID and the text, which must both be terminated. -/
def State.sendToOtherClients (state : State) (id : Fin maxClient) (buf : Buffer maxBuf) :
    Option State :=
  (state.client id).uid.read.bind fun uid =>
    buf.read.map fun text => state.sendOthers id (frame uid text)

/-- A log-out removes the descriptor from the set and closes it. -/
def State.close (state : State) (sockfd : Nat) : State :=
  { state with
    reads := state.reads.erase sockfd
    connection := Function.update state.connection sockfd none }

/-- `ProcessClient` receives from the descriptor of its slot and passes the buffer on. -/
def State.processClient (state : State) (id : Fin maxClient) (stale : Buffer maxBuf)
    (received : List UInt8) : Option State :=
  let client := state.client id
  (state.connection client.sockfd).bind fun connection =>
    (client.process stale received).bind fun result =>
      let stored := { state with
        client := Function.update state.client id result.1
        history := .received connection received :: state.history }
      let closed := if result.1.inUse then stored else stored.close client.sockfd
      match result.2 with
      | none => some closed
      | some buf => closed.sendToOtherClients id buf

/-- The accept branch registers the new descriptor under a free slot. -/
def State.accept (state : State) (newSockfd : Nat) : Option State :=
  (getID state.client).map fun id =>
    { state with
      reads := insert newSockfd state.reads
      fdMax := max state.fdMax newSockfd
      client := Function.update state.client id
        { state.client id with sockfd := newSockfd, inUse := true, first := false }
      sockIdx := Function.update state.sockIdx newSockfd id
      connection := Function.update state.connection newSockfd (some state.opened)
      opened := state.opened + 1
      history := .accepted state.opened :: state.history }

/-- A label names the statement of the server loop and what the kernel returns to it. -/
inductive Label where
  | select (ready : Finset Nat)
  | skip
  | accept (newSockfd : Nat)
  | serve (stale : Buffer maxBuf) (received : List UInt8)
  | finish
  deriving DecidableEq

/-- The inner loop stands at a descriptor whose bit is set in the snapshot. -/
def State.At (state : State) (i : Nat) : Prop :=
  state.pass = some i ∧ i ≤ state.fdMax ∧ i ∈ state.cpyReads

instance (state : State) (i : Nat) : Decidable (state.At i) :=
  inferInstanceAs (Decidable (_ ∧ _ ∧ _))

/-- The inner loop goes on to the next descriptor. -/
def State.advance (state : State) (i : Nat) : State := { state with pass := some (i + 1) }

/-- A step is one call of `select` or one iteration of the inner loop. -/
def State.next (listener : Nat) (state : State) : Label → Option State
  | .select ready =>
      if state.pass = none ∧ ready.Nonempty ∧ ready ⊆ state.reads ∧
          ∀ fd ∈ ready, fd ≤ state.fdMax then
        some { state with cpyReads := ready, pass := some 0 }
      else none
  | .skip =>
      state.pass.bind fun i =>
        if i ≤ state.fdMax ∧ i ∉ state.cpyReads then some (state.advance i) else none
  | .accept newSockfd =>
      if state.At listener ∧ newSockfd < maxSock ∧ newSockfd ≠ listener ∧
          state.connection newSockfd = none then
        (state.accept newSockfd).map fun later => later.advance listener
      else none
  | .serve stale received =>
      state.pass.bind fun i =>
        if state.At i ∧ i ≠ listener then
          if inside : state.sockIdx i < maxClient then
            (state.processClient ⟨state.sockIdx i, inside⟩ stale received).map fun later =>
              later.advance i
          else none
        else none
  | .finish =>
      state.pass.bind fun i =>
        if state.fdMax < i then some { state with pass := none } else none

/-- The globals are zero at first, the listening descriptor is in the set, and `sockIdx` is arbitrary. -/
def start (listener : Nat) (sockIdx : Nat → Nat) : State where
  client := fun _ => ⟨0, false, .fill maxId 0, false⟩
  reads := {listener}
  cpyReads := ∅
  fdMax := listener
  sockIdx := sockIdx
  pass := none
  connection := fun _ => none
  opened := 0
  sent := fun _ => []
  history := []

/-- The system is the loop of `main` after `listen`. -/
def system (listener : Nat) : System State Label where
  initial state := ∃ sockIdx, state = start listener sockIdx
  next := State.next listener

/-- This relation lists the steps of the server loop with their guards and effects. -/
inductive Step (listener : Nat) (state : State) : Label → State → Prop where
  | select (ready : Finset Nat) (between : state.pass = none) (set : ready ⊆ state.reads) :
      Step listener state (.select ready) { state with cpyReads := ready, pass := some 0 }
  | skip (i : Nat) (here : state.pass = some i) (inside : i ≤ state.fdMax)
      (clear : i ∉ state.cpyReads) : Step listener state .skip (state.advance i)
  | accept (newSockfd : Nat) (here : state.At listener) (small : newSockfd < maxSock)
      (fresh : newSockfd ≠ listener) (unopened : state.connection newSockfd = none) (later : State)
      (accepted : state.accept newSockfd = some later) :
      Step listener state (.accept newSockfd) (later.advance listener)
  | serve (stale : Buffer maxBuf) (received : List UInt8) (i : Nat) (here : state.At i)
      (client : i ≠ listener) (inside : state.sockIdx i < maxClient) (later : State)
      (served : state.processClient ⟨state.sockIdx i, inside⟩ stale received = some later) :
      Step listener state (.serve stale received) (later.advance i)
  | finish (i : Nat) (here : state.pass = some i) (past : state.fdMax < i) :
      Step listener state .finish { state with pass := none }

/-- Each step of the server loop is one of the listed steps. -/
theorem step_of_next {listener : Nat} {state later : State} {label : Label}
    (taken : state.next listener label = some later) : Step listener state label later := by
  cases label with
  | select ready =>
      simp only [State.next, Option.ite_none_right_eq_some, Option.some.injEq] at taken
      obtain ⟨⟨between, _, set, _⟩, rfl⟩ := taken
      exact .select ready between set
  | skip =>
      simp only [State.next, Option.bind_eq_some_iff, Option.ite_none_right_eq_some,
        Option.some.injEq] at taken
      obtain ⟨i, here, ⟨inside, clear⟩, rfl⟩ := taken
      exact .skip i here inside clear
  | accept newSockfd =>
      simp only [State.next, Option.ite_none_right_eq_some, Option.map_eq_some_iff] at taken
      obtain ⟨⟨here, small, fresh, unopened⟩, middle, accepted, rfl⟩ := taken
      exact .accept newSockfd here small fresh unopened middle accepted
  | serve stale received =>
      simp only [State.next, Option.bind_eq_some_iff, Option.ite_none_right_eq_some,
        Option.dite_none_right_eq_some, Option.map_eq_some_iff] at taken
      obtain ⟨i, _, ⟨here, client⟩, inside, middle, served, rfl⟩ := taken
      exact .serve stale received i here client inside middle served
  | finish =>
      simp only [State.next, Option.bind_eq_some_iff, Option.ite_none_right_eq_some,
        Option.some.injEq] at taken
      obtain ⟨i, here, past, rfl⟩ := taken
      exact .finish i here past

section Overload

/-- The accept branch writes both arrays, and an index outside of their bounds has no defined result. -/
def State.register (state : State) (newSockfd : Nat) (index : Int)
    (client : Fin maxClient → ClientType) : Option State :=
  if inside : newSockfd < maxSock ∧ 0 ≤ index ∧ index.toNat < maxClient then
    let id : Fin maxClient := ⟨index.toNat, inside.2.2⟩
    some { state with
      reads := insert newSockfd state.reads
      fdMax := max state.fdMax newSockfd
      client := Function.update client id { client id with sockfd := newSockfd, first := false }
      sockIdx := Function.update state.sockIdx newSockfd index.toNat
      connection := Function.update state.connection newSockfd (some state.opened)
      opened := state.opened + 1
      history := .accepted state.opened :: state.history }
  else none

/-- `GetID` marks the slot that it returns, and without a free slot the caller finds an arbitrary value. -/
def State.acceptAny (state : State) (newSockfd : Nat) (arbitrary : Int) : Option State :=
  match getID state.client with
  | some id =>
      state.register newSockfd (id : Nat)
        (Function.update state.client id { state.client id with inUse := true })
  | none => state.register newSockfd arbitrary state.client

/-- The loop of `main` takes each connection, also when all slots are in use. -/
def overload (listener : Nat) : System State (Label × Int) where
  initial := (system listener).initial
  next state label :=
    match label.1 with
    | .accept newSockfd =>
        if state.At listener ∧ newSockfd ≠ listener ∧ state.connection newSockfd = none then
          (state.acceptAny newSockfd label.2).map fun later => later.advance listener
        else none
    | other => state.next listener other

end Overload

section Lines

/-- A line is the record of a log-in, or a frame that goes to the others on behalf of a connection. -/
inductive Line where
  | logIn (connection : Nat) (uid : List UInt8)
  | said (connection : Nat) (msg : List UInt8)
  deriving DecidableEq

/-- `ProcessClient` prints the stored ID after a log-in, and later it passes on a frame. -/
def State.line (state : State) (id : Fin maxClient) (stale : Buffer maxBuf)
    (received : List UInt8) : Option Line :=
  let client := state.client id
  (state.connection client.sockfd).bind fun connection =>
    (client.process stale received).bind fun result =>
      result.1.uid.read.bind fun uid =>
        match result.2 with
        | none => some (.logIn connection uid)
        | some buf => buf.read.map fun text => .said connection (frame uid text)

/-- The inner loop serves this slot when its descriptor is ready. -/
def State.slot (state : State) : Option (Fin maxClient) :=
  state.pass.bind fun i =>
    if inside : state.sockIdx i < maxClient then some ⟨state.sockIdx i, inside⟩ else none

/-- Only a served client makes a line. -/
def State.lines (state : State) : Label → List Line
  | .serve stale received => (state.slot.bind fun id => state.line id stale received).toList
  | _ => []

/-- The loop of `main` together with its lines. -/
def logged (listener : Nat) : System (State × List Line) Label where
  initial state := (system listener).initial state.1 ∧ state.2 = []
  next state label :=
    (state.1.next listener label).map fun later => (later, state.2 ++ state.1.lines label)

end Lines

/-- `msg` of `SendToOtherClients` has this size. -/
def msgSize : Nat := maxBuf + maxId

/-- `SendToOtherClients` formats these bytes after the client is served. -/
def ClientType.formats (client : ClientType) (stale : Buffer maxBuf) (received : List UInt8) :
    Option (List UInt8) :=
  (client.process stale received).bind fun result =>
    result.2.bind fun buf =>
      result.1.uid.read.bind fun uid => buf.read.map fun text => frame uid text

end Chats

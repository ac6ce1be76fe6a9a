import LinuxSystemProgramming.Library.Transition
import LinuxSystemProgramming.Library.NamedPipe
import LinuxSystemProgramming.Library.CString
import Mathlib.Logic.Function.Basic

namespace Fifos
open Transition CString

/-- The kernel numbers a process with 31 bits. -/
abbrev Pid := Fin 0x80000000

/-- `fifo.h` bounds the name of a FIFO. -/
def maxFifoName : Nat := 32

/-- `Msgtype` has this many bytes of data. -/
def maxData : Nat := 128

/-- `sizeof(Msgtype)`. -/
def msgSize : Nat := maxFifoName + maxData

/-- A message has the name of the client's FIFO and its data. -/
structure Msgtype where
  returnFifo : Buffer maxFifoName
  data : Buffer maxData

/-- A message in memory. -/
def Msgtype.memory (msg : Msgtype) : Buffer msgSize where
  bytes := msg.returnFifo.bytes ++ msg.data.bytes
  sized := by rw [List.length_append, msg.returnFifo.sized, msg.data.sized, msgSize]

/-- The message that some memory holds. -/
def Msgtype.ofMemory (memory : Buffer msgSize) : Msgtype where
  returnFifo := ⟨memory.bytes.take maxFifoName, by
    rw [List.length_take, memory.sized, msgSize]
    omega⟩
  data := ⟨memory.bytes.drop maxFifoName, by
    rw [List.length_drop, memory.sized, msgSize]
    omega⟩

/-- A read overwrites the message with at most its size. -/
def Msgtype.receive (msg : Msgtype) (bytes : List UInt8) : Msgtype :=
  .ofMemory (msg.memory.write (bytes.take msgSize) (List.length_take_le _ _))

def chars (text : List Char) : List UInt8 := text.map Char.toUInt8

/-- The path of the server's FIFO. -/
def servFifo : List UInt8 := chars ['.', '/', '.', 'f', 'i', 'f', 'o']

/-- A path from the current directory names the same file without its first two characters. -/
def resolve : List UInt8 → List UInt8
  | 46 :: 47 :: path => path
  | path => path

/-- A process number has at most ten digits. -/
theorem length_pid (pid : Pid) : (decimal pid).length ≤ 10 :=
  length_decimal_le (by decide) (pid.isLt.trans (by decide))

/-- `sprintf(fname, ".fifo%d", getpid())`. -/
def fname (pid : Pid) : Content maxFifoName where
  bytes := chars ['.', 'f', 'i', 'f', 'o'] ++ decimal pid
  fits := by
    have length := length_pid pid
    simp only [List.length_append, chars, List.length_map, List.length_cons, List.length_nil,
      maxFifoName]
    omega

/-- `sprintf(msg.data, "This request from %d.", getpid())`. -/
def requestText (pid : Pid) : Content maxData where
  bytes := chars ['T', 'h', 'i', 's', ' ', 'r', 'e', 'q', 'u', 'e', 's', 't', ' ', 'f', 'r', 'o',
    'm', ' '] ++ decimal pid ++ chars ['.']
  fits := by
    have length := length_pid pid
    simp only [List.length_append, chars, List.length_map, List.length_cons, List.length_nil,
      maxData]
    omega

/-- `sprintf(msg.data, "This is a reply from %d...", getpid())`. -/
def replyText (pid : Pid) : Content maxData where
  bytes := chars ['T', 'h', 'i', 's', ' ', 'i', 's', ' ', 'a', ' ', 'r', 'e', 'p', 'l', 'y', ' ',
    'f', 'r', 'o', 'm', ' '] ++ decimal pid ++ chars ['.', '.', '.']
  fits := by
    have length := length_pid pid
    simp only [List.length_append, chars, List.length_map, List.length_cons, List.length_nil,
      maxData]
    omega

/-- A client writes its name and its request into the message. -/
def Msgtype.ask (msg : Msgtype) (name : Content maxFifoName) (request : Content maxData) :
    Msgtype where
  returnFifo := msg.returnFifo.print name
  data := msg.data.print request

/-- The server writes its reply into the message and keeps the name. -/
def Msgtype.answer (msg : Msgtype) (reply : Content maxData) : Msgtype :=
  { msg with data := msg.data.print reply }

/-- Each process creates one FIFO, which is known by its creator. -/
inductive Process where
  | fifos
  | fifoc (pid : Pid)
  deriving DecidableEq

/-- A point names the system call of `main` of `fifoc.c` that is executed next. -/
inductive ClientPoint where
  | mkfifo
  | openOwn
  | openServer
  | write
  | read
  | closeOwn
  | closeServer
  | remove
  | done
  | failed
  deriving DecidableEq

/-- A point names the system call of the loop of `fifos.c` that is executed next. -/
inductive ServerPoint where
  | read
  | open
  | write
  | close
  | failed
  deriving DecidableEq

/-- A client has its message and its descriptors, and it records what its reads return. -/
structure Client where
  point : ClientPoint
  msg : Msgtype
  fd : Option Process
  sfd : Option Process
  replies : List (List UInt8)

/-- The server has its message and the descriptor of a client's FIFO. -/
structure Server where
  point : ServerPoint
  msg : Msgtype
  cfd : Option Process

/-- The directory names the FIFOs, and the logs record the requests and what the server does. -/
structure State where
  directory : List UInt8 → Option Process
  queue : Process → List UInt8
  readers : Process → Nat
  fifos : Server
  fifoc : Pid → Client
  sent : List (Pid × Msgtype)
  received : List (List UInt8)
  opened : List Process
  replied : List (Process × Msgtype)

def State.setClient (state : State) (pid : Pid) (client : Client) : State :=
  { state with fifoc := Function.update state.fifoc pid client }

def State.lookup (state : State) (path : List UInt8) : Option Process :=
  state.directory (resolve path)

/-- An open for reading adds a reader. -/
def State.acquire (state : State) (fifo : Process) : State :=
  { state with readers := Function.update state.readers fifo (state.readers fifo + 1) }

/-- The close of an open descriptor removes a reader. -/
def State.release (state : State) : Option Process → State
  | none => state
  | some fifo =>
      { state with readers := Function.update state.readers fifo (state.readers fifo - 1) }

/-- `exit(1)` closes the descriptors of a client. -/
def State.fail (state : State) (pid : Pid) : State :=
  let client := state.fifoc pid
  ((state.release client.fd).release client.sfd).setClient pid
    { client with point := .failed, fd := none, sfd := none }

/-- A client creates its FIFO unless the name exists. -/
def State.mkfifo (state : State) (pid : Pid) : State :=
  match state.lookup (fname pid).bytes with
  | some _ => state.fail pid
  | none =>
      { state.setClient pid { state.fifoc pid with point := .openOwn } with
        directory := Function.update state.directory (resolve (fname pid).bytes) (some (.fifoc pid))
        queue := Function.update state.queue (.fifoc pid) [] }

/-- A client opens its own FIFO. -/
def State.openOwn (state : State) (pid : Pid) : State :=
  match state.lookup (fname pid).bytes with
  | none => state.fail pid
  | some fifo =>
      (state.acquire fifo).setClient pid
        { state.fifoc pid with point := .openServer, fd := some fifo }

/-- A client opens the server's FIFO. -/
def State.openServer (state : State) (pid : Pid) : State :=
  match state.lookup servFifo with
  | none => state.fail pid
  | some fifo =>
      (state.acquire fifo).setClient pid { state.fifoc pid with point := .write, sfd := some fifo }

/-- A client writes its request to the server's FIFO. -/
def State.send (capacity : Nat) (request : Pid → Content maxData) (state : State) (pid : Pid) :
    Option State :=
  let client := state.fifoc pid
  let msg := client.msg.ask (fname pid) (request pid)
  client.sfd.bind fun fifo =>
    (NamedPipe.write capacity (state.queue fifo) msg.memory.bytes).map fun queue =>
      { state.setClient pid { client with point := .read, msg := msg } with
        queue := Function.update state.queue fifo queue
        sent := state.sent ++ [(pid, msg)] }

/-- A client reads the reply from its own FIFO. -/
def State.receive (state : State) (pid : Pid) : Option State :=
  let client := state.fifoc pid
  client.fd.bind fun fifo =>
    (NamedPipe.read msgSize (state.queue fifo)).map fun (bytes, queue) =>
      { state.setClient pid
          { client with
            point := .closeOwn
            msg := client.msg.receive bytes
            replies := client.replies ++ [bytes] } with
        queue := Function.update state.queue fifo queue }

/-- A client removes its FIFO. -/
def State.remove (state : State) (pid : Pid) : State :=
  match state.lookup (fname pid).bytes with
  | none => state.fail pid
  | some _ =>
      { state.setClient pid { state.fifoc pid with point := .done } with
        directory := Function.update state.directory (resolve (fname pid).bytes) none }

/-- A client executes its next system call. -/
def State.client (capacity : Nat) (request : Pid → Content maxData) (state : State) (pid : Pid) :
    Option State :=
  let client := state.fifoc pid
  match client.point with
  | .mkfifo => some (state.mkfifo pid)
  | .openOwn => some (state.openOwn pid)
  | .openServer => some (state.openServer pid)
  | .write => state.send capacity request pid
  | .read => state.receive pid
  | .closeOwn =>
      some ((state.release client.fd).setClient pid { client with point := .closeServer, fd := none })
  | .closeServer =>
      some ((state.release client.sfd).setClient pid { client with point := .remove, sfd := none })
  | .remove => some (state.remove pid)
  | .done | .failed => none

/-- The server reads from its FIFO. -/
def State.serverRead (state : State) : Option State :=
  (NamedPipe.read msgSize (state.queue .fifos)).map fun (bytes, queue) =>
    { state with
      fifos := { state.fifos with point := .open, msg := state.fifos.msg.receive bytes }
      queue := Function.update state.queue .fifos queue
      received := state.received ++ [bytes] }

/-- The server opens the FIFO that the message names, and it waits until the FIFO has a reader. -/
def State.serverOpen (state : State) : Option State :=
  match state.fifos.msg.memory.read.bind state.lookup with
  | none => some { state with fifos := { state.fifos with point := .failed } }
  | some fifo =>
      if state.readers fifo = 0 then none
      else some
        { state with
          fifos := { state.fifos with point := .write, cfd := some fifo }
          opened := state.opened ++ [fifo] }

/-- The server writes its reply, and it is killed when the FIFO has no reader. -/
def State.serverWrite (capacity : Nat) (reply : Content maxData) (state : State) : Option State :=
  let msg := state.fifos.msg.answer reply
  state.fifos.cfd.bind fun fifo =>
    if state.readers fifo = 0 then some { state with fifos := { state.fifos with point := .failed } }
    else
      (NamedPipe.write capacity (state.queue fifo) msg.memory.bytes).map fun queue =>
        { state with
          fifos := { state.fifos with point := .close, msg := msg }
          queue := Function.update state.queue fifo queue
          replied := state.replied ++ [(fifo, msg)] }

/-- The server executes its next system call. -/
def State.server (capacity : Nat) (reply : Content maxData) (state : State) : Option State :=
  match state.fifos.point with
  | .read => state.serverRead
  | .open => state.serverOpen
  | .write => state.serverWrite capacity reply
  | .close => some { state with fifos := { state.fifos with point := .read, cfd := none } }
  | .failed => none

/-- Any process can execute its next system call. -/
def State.next (capacity : Nat) (request : Pid → Content maxData) (reply : Content maxData)
    (state : State) : Process → Option State
  | .fifos => state.server capacity reply
  | .fifoc pid => state.client capacity request pid

/-- The server runs with its FIFO, and the messages have any content. -/
def start (stale : Msgtype) (content : Pid → Msgtype) : State where
  directory := Function.update (fun _ => none) (resolve servFifo) (some .fifos)
  queue := fun _ => []
  readers := Function.update (fun _ => 0) .fifos 1
  fifos := ⟨.read, stale, none⟩
  fifoc := fun pid => ⟨.mkfifo, content pid, none, none, []⟩
  sent := []
  received := []
  opened := []
  replied := []

/-- The system runs the server and any number of clients. -/
def system (capacity : Nat) (request : Pid → Content maxData) (reply : Content maxData)
    (stale : Msgtype) (content : Pid → Msgtype) : System State Process where
  initial state := state = start stale content
  next := State.next capacity request reply

end Fifos

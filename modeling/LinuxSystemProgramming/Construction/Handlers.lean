import LinuxSystemProgramming.Construction.Tcps

namespace Handlers
open CString
open Fifos (Pid chars length_pid)
open Tcps (MsgType Received maxData msgSize msgReply)

/-- On an error a handler calls `exit(1)` or `pthread_exit(NULL)`. -/
inductive Leave where
  | exit
  | pthreadExit
  deriving DecidableEq

/-- These are the calls that `perror` names. -/
inductive Call where
  | accept
  | read
  | write
  | recvfrom
  | sendto
  deriving DecidableEq

/-- A handler fails at a call, or it sends a whole message to the client. -/
inductive Result where
  | failed (printed : List UInt8) (call : Call) (leave : Leave)
  | replied (printed : List UInt8) (reply : Buffer msgSize)
  deriving DecidableEq

/-- `sprintf(msg.data,"This is a reply from %d",getpid())`. -/
def replyText (pid : Pid) : Content maxData where
  bytes := chars ['T', 'h', 'i', 's', ' ', 'i', 's', ' ', 'a', ' ', 'r', 'e', 'p', 'l', 'y', ' ',
    'f', 'r', 'o', 'm', ' '] ++ decimal pid
  fits := by
    have length := length_pid pid
    simp only [List.length_append, chars, List.length_map, List.length_cons, List.length_nil,
      maxData]
    omega

/-- The line that a handler prints for a request. -/
def line (protocol : List Char) (request : List UInt8) (dots : List Char) : List UInt8 :=
  chars ['R', 'e', 'c', 'e', 'i', 'v', 'e', 'd', ' '] ++ chars protocol ++
    chars [' ', 'r', 'e', 'q', 'u', 'e', 's', 't', ':'] ++ request ++ chars dots

/-- `printf` reads `msg.data` up to a zero, which may be in the memory beyond the message. -/
def request (beyond : List UInt8) (msg : MsgType) : List UInt8 := text (msg.data.bytes ++ beyond)

/-- These are the dots of a TCP handler, which ends the line after its reply. -/
def tcpDots : List Char := ['.', '.', '.', '.', '.', '.', '.', '.']

/-- These are the dots of a UDP handler. -/
def udpDots : List Char := [' ', '.', '.', '.', '.']

/-- A TCP handler accepts a connection, reads from it once, and writes the message back with a new text. -/
def processTcp (leave : Leave) (pid : Pid) (beyond : List UInt8) (msg : MsgType) (accepts : Bool)
    (read : Option Received) (writes : Bool) : Result :=
  if accepts then
    match read with
    | none => .failed [] .read leave
    | some received =>
        let msg := msg.receive received
        let printed := line ['T', 'C', 'P'] (request beyond msg) tcpDots
        let msg := { msg with data := msg.data.print (replyText pid) }
        if writes then
          .replied (printed ++ chars ['R', 'e', 'p', 'l', 'i', 'e', 'd', '.', '\n']) msg.memory
        else .failed printed .write leave
  else .failed [] .accept leave

/-- A UDP handler receives a datagram, and it sends the message back with a new type and a new text. -/
def processUdp (leave : Leave) (pid : Pid) (beyond : List UInt8) (msg : MsgType)
    (recvfrom : Option Received) (sends : Bool) : Result :=
  match recvfrom with
  | none => .failed [] .recvfrom leave
  | some received =>
      let msg := msg.receive received
      let printed := line ['U', 'D', 'P'] (request beyond msg) udpDots
      let msg := { msg with type := msgReply }
      let msg := { msg with data := msg.data.print (replyText pid) }
      if sends then
        .replied (printed ++ chars ['R', 'e', 'p', 'l', 'i', 'e', 'd', '\n']) msg.memory
      else .failed printed .sendto leave

/-- The bytes of a record that the first read of a stream returns. -/
def first (record : MsgType) (count : Nat) : Received where
  bytes := record.memory.bytes.take count
  fits := by
    rw [List.length_take, record.memory.sized]
    exact Nat.min_le_right _ _

/-- A datagram has the whole record. -/
def datagram (record : MsgType) : Received := ⟨record.memory.bytes, record.memory.sized.le⟩

end Handlers

namespace Select

/-- `ProcessTcpRequest` of `select.c`. -/
def processTcpRequest := Handlers.processTcp .exit

/-- `ProcessUdpRequest` of `select.c`. -/
def processUdpRequest := Handlers.processUdp .exit

end Select

namespace Hw3

/-- `ProcessTcpRequest` of `hw3.c`. -/
def processTcpRequest := Handlers.processTcp .pthreadExit

/-- `ProcessUdpRequest` of `hw3.c`. -/
def processUdpRequest := Handlers.processUdp .pthreadExit

end Hw3

import LinuxSystemProgramming.Construction.Fifos

namespace Tcps
open CString
open Fifos (Pid chars length_pid)

/-- The data of a `MsgType`. -/
def maxData : Nat := 128

/-- `sizeof(MsgType)`, with an `int` of four bytes. -/
def msgSize : Nat := 4 + maxData

/-- A message has its type and its data. -/
structure MsgType where
  type : Buffer 4
  data : Buffer maxData

/-- A message in memory. -/
def MsgType.memory (msg : MsgType) : Buffer msgSize where
  bytes := msg.type.bytes ++ msg.data.bytes
  sized := by rw [List.length_append, msg.type.sized, msg.data.sized, msgSize]

/-- The message that some memory holds. -/
def MsgType.ofMemory (memory : Buffer msgSize) : MsgType where
  type := ⟨memory.bytes.take 4, by
    rw [List.length_take, memory.sized, msgSize]
    omega⟩
  data := ⟨memory.bytes.drop 4, by
    rw [List.length_drop, memory.sized, msgSize]
    omega⟩

/-- The bytes that one `read` or `recvfrom` returns. -/
structure Received where
  bytes : List UInt8
  fits : bytes.length ≤ msgSize

/-- A receive overwrites the first bytes of the message. -/
def MsgType.receive (msg : MsgType) (received : Received) : MsgType :=
  .ofMemory (msg.memory.write received.bytes received.fits)

/-- `MSG_REPLY` in memory, where the low byte comes first. -/
def msgReply : Buffer 4 := ⟨[2, 0, 0, 0], rfl⟩

/-- `sprintf(msg.data, "This is a reply from %d.", getpid())`. -/
def replyText (pid : Pid) : Content maxData where
  bytes := chars ['T', 'h', 'i', 's', ' ', 'i', 's', ' ', 'a', ' ', 'r', 'e', 'p', 'l', 'y', ' ',
    'f', 'r', 'o', 'm', ' '] ++ decimal pid ++ chars ['.']
  fits := by
    have length := length_pid pid
    simp only [List.length_append, chars, List.length_map, List.length_cons, List.length_nil,
      maxData]
    omega

/-- The server writes its reply into the message that it received. -/
def MsgType.answer (msg : MsgType) (pid : Pid) : MsgType where
  type := msgReply
  data := msg.data.print (replyText pid)

/-- A client causes a line on the screen, and it gets a whole message back. -/
structure Answer where
  printed : List UInt8
  written : Buffer msgSize
  deriving DecidableEq

/-- An iteration prints the request with some dots, and the text may run into the memory beyond the message. -/
def serve (dots : List UInt8) (pid : Pid) (beyond : List UInt8) (msg : MsgType)
    (received : Received) : MsgType × Answer :=
  let filled := msg.receive received
  let replied := filled.answer pid
  (replied,
    ⟨chars ['R', 'e', 'c', 'e', 'i', 'v', 'e', 'd', ' ', 'r', 'e', 'q', 'u', 'e', 's', 't', ':',
        ' '] ++ text (filled.data.bytes ++ beyond) ++ dots, replied.memory⟩)

/-- The servers use one message for all clients. -/
def loop (body : MsgType → Received → MsgType × Answer) : MsgType → List Received → List Answer
  | _, [] => []
  | msg, received :: rest => (body msg received).2 :: loop body (body msg received).1 rest

/-- `main` of `tcps.c` serves its clients, and each of them has its connection. -/
def tcps (pid : Pid) (beyond : List UInt8) (msg : MsgType) (clients : List Received) :
    List Answer :=
  loop (serve (chars ['.', '.', '.', '.', '.']) pid beyond) msg clients

/-- `main` of `udps.c` serves its clients by their datagrams. -/
def udps (pid : Pid) (beyond : List UInt8) (msg : MsgType) (clients : List Received) :
    List Answer :=
  loop (serve (chars ['.', '.', '.', '.']) pid beyond) msg clients

end Tcps

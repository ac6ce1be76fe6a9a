/-
This file proves when the TCP handlers of `select.c` and `hw3.c` give the service of the UDP handlers.
-/

import LinuxSystemProgramming.Construction.Handlers

namespace Handlers
open CString
open Fifos (Pid chars length_pid)
open Tcps (MsgType Received maxData msgSize msgReply)

@[simp] theorem ofMemory_memory (msg : MsgType) : MsgType.ofMemory msg.memory = msg := by
  obtain ⟨type, data⟩ := msg
  have typed := type.sized
  simp only [MsgType.ofMemory, MsgType.memory, List.take_left' typed, List.drop_left' typed]

section Memory
variable (stale record : MsgType) (count : Nat)

/-- A part of a record fills the type and the data from their beginnings. -/
theorem write_first :
    (stale.memory.write (first record count).bytes (first record count).fits).bytes =
      (record.type.bytes.take count ++ stale.type.bytes.drop count) ++
        (record.data.bytes.take (count - 4) ++ stale.data.bytes.drop (count - 4)) := by
  have typed := record.type.sized
  have typed' := stale.type.sized
  have sized := record.memory.sized
  have dropped : stale.memory.bytes.drop (record.memory.bytes.take count).length =
      stale.memory.bytes.drop count := by
    have sized' := stale.memory.sized
    rw [List.length_take, sized]
    by_cases inside : count ≤ msgSize
    · rw [Nat.min_eq_left inside]
    · rw [List.drop_eq_nil_of_le (by omega), List.drop_eq_nil_of_le (by omega)]
  simp only [Buffer.write, first, dropped]
  simp only [MsgType.memory, List.take_append, List.drop_append, typed, typed']
  by_cases inside : count ≤ 4
  · have zero : count - 4 = 0 := by omega
    simp [zero]
  · have none : stale.type.bytes.drop count = [] := List.drop_eq_nil_of_le (by omega)
    simp [none]

theorem receive_first :
    (stale.receive (first record count)).type.bytes =
        record.type.bytes.take count ++ stale.type.bytes.drop count ∧
      (stale.receive (first record count)).data.bytes =
        record.data.bytes.take (count - 4) ++ stale.data.bytes.drop (count - 4) := by
  have four : (record.type.bytes.take count ++ stale.type.bytes.drop count).length = 4 := by
    rw [List.length_append, List.length_take, List.length_drop, record.type.sized,
      stale.type.sized]
    omega
  simp only [MsgType.receive, MsgType.ofMemory, write_first]
  exact ⟨List.take_left' four, List.drop_left' four⟩

/-- A datagram replaces the whole message. -/
theorem receive_datagram : stale.receive (datagram record) = record := by
  have whole := stale.memory.write_all record.memory (datagram record).bytes (datagram record).fits rfl
  rw [MsgType.receive, whole, ofMemory_memory]

end Memory

theorem zero_not_mem_replyText (pid : Pid) : 0 ∉ (replyText pid).bytes := by
  intro member
  rw [replyText, List.mem_append] at member
  rcases member with words | digits
  · revert words
    decide
  · exact zero_not_mem_decimal pid digits

/-- The text of a reply does not depend on the request. -/
theorem text_print (data : Buffer maxData) (pid : Pid) :
    text (data.print (replyText pid)).bytes = (replyText pid).bytes := by
  simp only [Buffer.print, Buffer.write, List.append_assoc]
  exact text_terminated _ _ (zero_not_mem_replyText pid)

theorem line_injective (protocol dots : List Char) (last : List UInt8) (first second : List UInt8) :
    line protocol first dots ++ last = line protocol second dots ++ last ↔ first = second := by
  simp [line]

/-- Both handlers reply with `MSG_REPLY` and one text, and both print the whole text of the request. -/
def SameService (record : MsgType) (tcp udp : Result) : Prop :=
  ∃ first second : MsgType,
    tcp = .replied (line ['T', 'C', 'P'] (text record.data.bytes) tcpDots ++
      chars ['R', 'e', 'p', 'l', 'i', 'e', 'd', '.', '\n']) first.memory ∧
    udp = .replied (line ['U', 'D', 'P'] (text record.data.bytes) udpDots ++
      chars ['R', 'e', 'p', 'l', 'i', 'e', 'd', '\n']) second.memory ∧
    first.type = msgReply ∧ second.type = msgReply ∧
    text first.data.bytes = text second.data.bytes

section Service
variable (leave : Leave) (pid : Pid) (beyond beyond' : List UInt8) (stale stale' record : MsgType)

/-- The UDP handler prints the whole text unless the memory beyond the message continues it. -/
theorem request_datagram :
    request beyond (stale.receive (datagram record)) = text record.data.bytes ↔
      0 ∈ record.data.bytes ∨ text beyond = [] := by
  rw [receive_datagram, request, text_append]
  split
  case isTrue terminated => simp [terminated]
  case isFalse clean => simp [clean, text_eq_self clean]

/-- The TCP handler prints the whole text if its end was read or the stale bytes have the rest. -/
theorem request_first (count : Nat) :
    request beyond (stale.receive (first record count)) = text record.data.bytes ↔
      0 ∈ record.data.bytes.take (count - 4) ∨
        text (stale.data.bytes.drop (count - 4) ++ beyond) =
          text (record.data.bytes.drop (count - 4)) := by
  have split := text_append (record.data.bytes.take (count - 4)) (record.data.bytes.drop (count - 4))
  rw [List.take_append_drop] at split
  rw [request, (receive_first stale record count).2, List.append_assoc, text_append, split]
  split
  case isTrue terminated => simp [terminated]
  case isFalse clean => simp [clean]

/-- The services are the same if and only if the first read leaves `MSG_REPLY` and the whole text, and the text of the datagram ends in the message. -/
theorem sameService_iff (count : Nat) :
    SameService record
        (processTcp leave pid beyond stale true (some (first record count)) true)
        (processUdp leave pid beyond' stale' (some (datagram record)) true) ↔
      record.type.bytes.take count ++ stale.type.bytes.drop count = msgReply.bytes ∧
        (0 ∈ record.data.bytes.take (count - 4) ∨
          text (stale.data.bytes.drop (count - 4) ++ beyond) =
            text (record.data.bytes.drop (count - 4))) ∧
        (0 ∈ record.data.bytes ∨ text beyond' = []) := by
  have tcp : processTcp leave pid beyond stale true (some (first record count)) true =
      .replied (line ['T', 'C', 'P'] (request beyond (stale.receive (first record count))) tcpDots ++
        chars ['R', 'e', 'p', 'l', 'i', 'e', 'd', '.', '\n'])
        (MsgType.mk (stale.receive (first record count)).type
          ((stale.receive (first record count)).data.print (replyText pid))).memory := rfl
  have udp : processUdp leave pid beyond' stale' (some (datagram record)) true =
      .replied (line ['U', 'D', 'P'] (request beyond' (stale'.receive (datagram record))) udpDots ++
        chars ['R', 'e', 'p', 'l', 'i', 'e', 'd', '\n'])
        (MsgType.mk msgReply
          ((stale'.receive (datagram record)).data.print (replyText pid))).memory := rfl
  rw [← request_first beyond stale record count, ← request_datagram beyond' stale' record,
    ← (receive_first stale record count).1, tcp, udp]
  constructor
  · rintro ⟨own, other, printed, printed', typed, -, -⟩
    rw [Result.replied.injEq, line_injective] at printed printed'
    have equal := congrArg MsgType.ofMemory printed.2
    rw [ofMemory_memory, ofMemory_memory] at equal
    rw [← equal] at typed
    exact ⟨congrArg Buffer.bytes typed, printed.1, printed'.1⟩
  · rintro ⟨typed, whole, whole'⟩
    have reply : (stale.receive (first record count)).type = msgReply := by
      generalize (stale.receive (first record count)).type = type at typed
      obtain ⟨bytes, sized⟩ := type
      cases typed
      rfl
    rw [whole, whole']
    exact ⟨_, _, rfl, rfl, reply, rfl, by rw [text_print, text_print]⟩

end Service

/-- In both servers the TCP handler gives the service of the UDP handler exactly under this condition. -/
theorem process_same_iff (pid : Pid) (beyond beyond' : List UInt8) (stale stale' record : MsgType)
    (count : Nat) :
    (SameService record
        (Select.processTcpRequest pid beyond stale true (some (first record count)) true)
        (Select.processUdpRequest pid beyond' stale' (some (datagram record)) true) ↔
      record.type.bytes.take count ++ stale.type.bytes.drop count = msgReply.bytes ∧
        (0 ∈ record.data.bytes.take (count - 4) ∨
          text (stale.data.bytes.drop (count - 4) ++ beyond) =
            text (record.data.bytes.drop (count - 4))) ∧
        (0 ∈ record.data.bytes ∨ text beyond' = [])) ∧
    (SameService record
        (Hw3.processTcpRequest pid beyond stale true (some (first record count)) true)
        (Hw3.processUdpRequest pid beyond' stale' (some (datagram record)) true) ↔
      record.type.bytes.take count ++ stale.type.bytes.drop count = msgReply.bytes ∧
        (0 ∈ record.data.bytes.take (count - 4) ∨
          text (stale.data.bytes.drop (count - 4) ++ beyond) =
            text (record.data.bytes.drop (count - 4))) ∧
        (0 ∈ record.data.bytes ∨ text beyond' = [])) :=
  ⟨sameService_iff .exit pid beyond beyond' stale stale' record count,
    sameService_iff .pthreadExit pid beyond beyond' stale stale' record count⟩

/-- This is a request of type `MSG_REQUEST` with the text `A`. -/
def asked : MsgType := ⟨⟨[1, 0, 0, 0], rfl⟩, (Buffer.fill maxData 0).print ⟨[65], by decide⟩⟩

/-- The TCP handler returns the type of a request that it read as a whole. -/
theorem processTcpRequest_asked :
    ¬ SameService asked
        (Select.processTcpRequest 1 [0] asked true (some (first asked msgSize)) true)
        (Select.processUdpRequest 1 [0] asked (some (datagram asked)) true) ∧
      ¬ SameService asked
        (Hw3.processTcpRequest 1 [0] asked true (some (first asked msgSize)) true)
        (Hw3.processUdpRequest 1 [0] asked (some (datagram asked)) true) := by
  have type : asked.type.bytes.take msgSize ++ asked.type.bytes.drop msgSize ≠ msgReply.bytes := by
    decide
  constructor
  · exact fun same => type ((sameService_iff .exit 1 [0] [0] asked asked asked msgSize).mp same).1
  · exact fun same =>
      type ((sameService_iff .pthreadExit 1 [0] [0] asked asked asked msgSize).mp same).1

end Handlers

import LinuxSystemProgramming.Construction.Tcps

namespace Tcps
open CString
open Fifos (Pid chars length_pid)

section Loop
variable (body : MsgType → Received → MsgType × Answer)

/-- The message that the next client finds. -/
def left (msg : MsgType) (clients : List Received) : MsgType :=
  clients.foldl (fun before received => (body before received).1) msg

/-- The last client is answered from the message that the earlier ones left. -/
theorem loop_last (msg : MsgType) (earlier : List Received) (current : Received) :
    (loop body msg (earlier ++ [current])).getLast? =
      some (body (left body msg earlier) current).2 := by
  induction earlier generalizing msg with
  | nil => rfl
  | cons received rest ih =>
      have later := ih (body msg received).1
      rw [List.cons_append, loop, List.getLast?_cons, later]
      rfl

end Loop

section Bytes
variable (dots : List UInt8) (pid : Pid) (beyond : List UInt8)

@[simp] theorem memory_ofMemory (memory : Buffer msgSize) :
    (MsgType.ofMemory memory).memory = memory := by
  obtain ⟨bytes, sized⟩ := memory
  simp only [MsgType.memory, MsgType.ofMemory, List.take_append_drop]

/-- A message of full size leaves nothing of the earlier ones. -/
theorem receive_full (first second : MsgType) (current : Received)
    (full : current.bytes.length = msgSize) : first.receive current = second.receive current := by
  have whole : first.memory.write current.bytes current.fits =
      second.memory.write current.bytes current.fits := by
    rw [first.memory.write_all ⟨current.bytes, full⟩ _ _ rfl,
      second.memory.write_all ⟨current.bytes, full⟩ _ _ rfl]
  rw [MsgType.receive, MsgType.receive, whole]

/-- The last byte of a message is the last byte of its data. -/
theorem memory_last (msg : MsgType) : msg.memory.bytes[131]? = msg.data.bytes[127]? := by
  have typed : msg.type.bytes.length = 4 := msg.type.sized
  rw [MsgType.memory, List.getElem?_append_right (by omega), typed]

/-- The reply is too short for the last byte of the message. -/
theorem answer_last (msg : MsgType) :
    (msg.answer pid).memory.bytes[131]? = msg.memory.bytes[131]? := by
  have short : (replyText pid).bytes.length ≤ 32 := by
    have length := length_pid pid
    simp only [replyText, List.length_append, chars, List.length_map, List.length_cons,
      List.length_nil]
    omega
  rw [memory_last, memory_last, MsgType.answer, Buffer.print, Buffer.getElem?_write, if_neg]
  rw [List.length_append, List.length_singleton]
  omega

/-- A short message keeps the last byte of the message. -/
theorem receive_last (msg : MsgType) (current : Received)
    (short : current.bytes.length ≠ msgSize) :
    (msg.receive current).memory.bytes[131]? = msg.memory.bytes[131]? := by
  have bound := current.fits
  rw [MsgType.receive, memory_ofMemory, Buffer.getElem?_write, if_neg]
  simp only [msgSize, maxData] at bound short
  omega

/-- A client that sends one byte as often as the message is long. -/
def filled (byte : UInt8) : Received := ⟨List.replicate msgSize byte, by simp⟩

/-- After a filled message, a short one is answered with the last byte of the filled one. -/
theorem serve_leaks (msg : MsgType) (earlier : List Received) (byte : UInt8) (current : Received)
    (short : current.bytes.length ≠ msgSize) :
    ((serve dots pid beyond (left (serve dots pid beyond) msg (earlier ++ [filled byte]))
      current).2.written.bytes)[131]? = some byte := by
  simp only [left, List.foldl_append, List.foldl_cons, List.foldl_nil, serve]
  rw [answer_last, receive_last _ _ short, answer_last, MsgType.receive, memory_ofMemory,
    Buffer.getElem?_write]
  simp [filled, msgSize, maxData]

/-- Earlier clients cannot be seen if and only if there are none or the message is replaced. -/
theorem loop_leak_iff (msg : MsgType) (k : Nat) (current : Received) :
    (∀ first second : List Received, first.length = k → second.length = k →
      (loop (serve dots pid beyond) msg (first ++ [current])).getLast? =
        (loop (serve dots pid beyond) msg (second ++ [current])).getLast?) ↔
      k = 0 ∨ current.bytes.length = msgSize := by
  constructor
  · intro same
    by_contra leaks
    obtain ⟨some', short⟩ := not_or.mp leaks
    obtain ⟨n, rfl⟩ := Nat.exists_eq_succ_of_ne_zero some'
    have ones := serve_leaks dots pid beyond msg (List.replicate n (filled 0)) 1 current short
    have twos := serve_leaks dots pid beyond msg (List.replicate n (filled 0)) 2 current short
    have equal := same (List.replicate n (filled 0) ++ [filled 1])
      (List.replicate n (filled 0) ++ [filled 2]) (by simp) (by simp)
    rw [loop_last, loop_last, Option.some.injEq] at equal
    rw [equal, twos] at ones
    cases ones
  · rintro (none | full) first second length length'
    · subst none
      rw [List.length_eq_zero_iff.mp length, List.length_eq_zero_iff.mp length']
    · rw [loop_last, loop_last, serve, serve, receive_full _ _ current full]

end Bytes

/-- The servers answer and print without the bytes of earlier clients only for a whole message or the first client. -/
theorem noninterference_iff (pid : Pid) (beyond : List UInt8) (msg : MsgType) (k : Nat)
    (current : Received) :
    ((∀ first second : List Received, first.length = k → second.length = k →
      (tcps pid beyond msg (first ++ [current])).getLast? =
        (tcps pid beyond msg (second ++ [current])).getLast?) ↔
      k = 0 ∨ current.bytes.length = msgSize) ∧
    ((∀ first second : List Received, first.length = k → second.length = k →
      (udps pid beyond msg (first ++ [current])).getLast? =
        (udps pid beyond msg (second ++ [current])).getLast?) ↔
      k = 0 ∨ current.bytes.length = msgSize) :=
  ⟨loop_leak_iff _ pid beyond msg k current, loop_leak_iff _ pid beyond msg k current⟩

/-- A client that sends nothing gets the last byte of the client before it. -/
theorem earlier_bytes_returned :
    let msg : MsgType := ⟨.fill 4 0, .fill maxData 0⟩
    let empty : Received := ⟨[], Nat.zero_le _⟩
    (tcps 1 [0] msg ([filled 1] ++ [empty])).getLast? ≠
        (tcps 1 [0] msg ([filled 2] ++ [empty])).getLast? ∧
      (udps 1 [0] msg ([filled 1] ++ [empty])).getLast? ≠
        (udps 1 [0] msg ([filled 2] ++ [empty])).getLast? := by
  intro msg empty
  decide +kernel

end Tcps

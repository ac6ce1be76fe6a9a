import LinuxSystemProgramming.Construction.Fifos

namespace Fifos
open CString

/-- A client's name is its own path. -/
theorem resolve_fname (pid : Pid) : resolve (fname pid).bytes = (fname pid).bytes := rfl

/-- A client's name has no zero byte. -/
theorem fname_clean (pid : Pid) : 0 ∉ (fname pid).bytes := by
  intro member
  rcases List.mem_append.mp member with head | digits
  · revert head
    decide
  · exact zero_not_mem_decimal pid digits

/-- Different clients have different names. -/
theorem fname_injective {pid other : Pid} (same : (fname pid).bytes = (fname other).bytes) :
    pid = other :=
  Fin.ext (decimal_injective (List.append_cancel_left same))

/-- No client has the name of the server's FIFO. -/
theorem fname_ne_servFifo (pid : Pid) : (fname pid).bytes ≠ resolve servFifo := by
  intro same
  have digits : decimal pid = [] := List.append_cancel_left (same.trans (List.append_nil _).symm)
  rw [decimal, List.map_eq_nil_iff] at digits
  exact Nat.toDigits_ne_nil digits

/-- The memory of a message holds the message. -/
theorem ofMemory_memory (msg : Msgtype) : Msgtype.ofMemory msg.memory = msg := by
  obtain ⟨⟨name, named⟩, ⟨data, sized⟩⟩ := msg
  simp only [Msgtype.ofMemory, Msgtype.memory, Msgtype.mk.injEq, Buffer.mk.injEq]
  exact ⟨List.take_left' named, List.drop_left' named⟩

/-- A whole message replaces the message of the reader. -/
theorem receive_memory (msg other : Msgtype) : msg.receive other.memory.bytes = other := by
  have whole : other.memory.bytes.take msgSize = other.memory.bytes :=
    List.take_of_length_le (Nat.le_of_eq other.memory.sized)
  rw [Msgtype.receive, Buffer.write_all _ other.memory _ _ whole, ofMemory_memory]

/-- The server finds the name that the client has written. -/
theorem read_ask (msg : Msgtype) (name : Content maxFifoName) (request : Content maxData)
    (clean : 0 ∉ name.bytes) : (msg.ask name request).memory.read = some name.bytes := by
  have bytes : (msg.ask name request).memory.bytes = name.bytes ++ 0 ::
      (msg.returnFifo.bytes.drop (name.bytes ++ [0]).length ++ (msg.data.print request).bytes) := by
    simp [Msgtype.memory, Msgtype.ask, Buffer.print, Buffer.write]
  rw [Buffer.read, bytes, if_pos (by simp), text_terminated _ _ clean]

end Fifos

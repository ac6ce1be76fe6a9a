import LinuxSystemProgramming.Library.RingBuffer
import LinuxSystemProgramming.Construction.BoundedBuffer

namespace BoundedBuffer

/-- A buffer represents a queue when its counter, indices, and ring of slots agree with the queue. -/
structure Represents (maxBuf : Nat) (buffer : BoundedBufferType) (queue : List ItemType) : Prop where
  counter : buffer.counter = queue.length
  room : queue.length ≤ maxBuf
  outRange : buffer.outIndex < maxBuf
  inPlace : buffer.inIndex = (buffer.outIndex + queue.length) % maxBuf
  slots : RingBuffer.Holds maxBuf buffer.buf buffer.outIndex queue

/-- The zero buffer represents the empty queue. -/
theorem represents_zero (maxBuf : Nat) (positive : 1 ≤ maxBuf) :
    Represents maxBuf .zero [] where
  counter := rfl
  room := Nat.zero_le _
  outRange := positive
  inPlace := (Nat.zero_mod maxBuf).symm
  slots := RingBuffer.Holds.nil _ _ _

/-- The three statements of the producer append one item. -/
theorem Represents.put {maxBuf : Nat} {buffer : BoundedBufferType} {queue : List ItemType}
    (represents : Represents maxBuf buffer queue) (notFull : buffer.counter ≠ maxBuf) (data : Int) :
    Represents maxBuf ((buffer.store data).advanceIn maxBuf).countUp (queue ++ [⟨data⟩]) := by
  have counter := represents.counter
  have room := represents.room
  have space : queue.length < maxBuf := by omega
  refine ⟨?_, ?_, represents.outRange, ?_, ?_⟩
  · simp [BoundedBufferType.store, BoundedBufferType.advanceIn, BoundedBufferType.countUp, counter]
  · simp only [List.length_append, List.length_singleton]
    omega
  · simp only [BoundedBufferType.store, BoundedBufferType.advanceIn, BoundedBufferType.countUp,
      represents.inPlace, List.length_append, List.length_singleton, Nat.mod_add_mod, Nat.add_assoc]
  · have pushed := represents.slots.push space ⟨data⟩
    rw [← represents.inPlace] at pushed
    exact pushed

/-- A buffer whose counter is not zero represents a queue with a first item. -/
theorem Represents.nonempty {maxBuf : Nat} {buffer : BoundedBufferType} {queue : List ItemType}
    (represents : Represents maxBuf buffer queue) (notEmpty : buffer.counter ≠ 0) :
    ∃ item rest, queue = item :: rest := by
  cases queue with
  | nil => exact absurd represents.counter notEmpty
  | cons item rest => exact ⟨item, rest, rfl⟩

/-- The consumer reads the first item. -/
theorem Represents.load {maxBuf : Nat} {buffer : BoundedBufferType} {item : ItemType}
    {rest : List ItemType} (represents : Represents maxBuf buffer (item :: rest)) :
    buffer.load = item := by
  have first := represents.slots.head
  rwa [Nat.mod_eq_of_lt represents.outRange] at first

/-- The statements of the consumer after its read remove the first item. -/
theorem Represents.take {maxBuf : Nat} {buffer : BoundedBufferType} {item : ItemType}
    {rest : List ItemType} (represents : Represents maxBuf buffer (item :: rest)) :
    Represents maxBuf (buffer.advanceOut maxBuf).countDown rest := by
  have counter := represents.counter
  have room := represents.room
  have range := represents.outRange
  simp only [List.length_cons] at counter room
  refine ⟨?_, by omega, Nat.mod_lt _ (by omega), ?_, represents.slots.tail⟩
  · simp only [BoundedBufferType.advanceOut, BoundedBufferType.countDown, counter]
    omega
  · simp only [BoundedBufferType.advanceOut, BoundedBufferType.countDown, represents.inPlace,
      List.length_cons, Nat.mod_add_mod]
    congr 1
    omega

end BoundedBuffer

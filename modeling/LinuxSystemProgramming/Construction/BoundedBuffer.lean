import Mathlib.Data.Fintype.Basic
import Mathlib.Logic.Function.Basic

namespace BoundedBuffer

/-- The struct `ItemType` of `prodcons.h` has one field of type int. -/
structure ItemType where
  data : Int
  deriving DecidableEq, Repr

/-- This struct is `BoundedBufferType` of `prodcons.h` with its indices `in` and `out`. -/
structure BoundedBufferType where
  buf : Nat → ItemType
  inIndex : Nat
  outIndex : Nat
  counter : Int

/-- A global buffer starts with zero in every field. -/
def BoundedBufferType.zero : BoundedBufferType := ⟨fun _ => ⟨0⟩, 0, 0, 0⟩

/-- The producer executes `Buf.buf[Buf.in].data = data`. -/
def BoundedBufferType.store (buffer : BoundedBufferType) (data : Int) : BoundedBufferType :=
  { buffer with buf := Function.update buffer.buf buffer.inIndex ⟨data⟩ }

/-- The producer executes `Buf.in = (Buf.in + 1) % MAX_BUF`. -/
def BoundedBufferType.advanceIn (maxBuf : Nat) (buffer : BoundedBufferType) : BoundedBufferType :=
  { buffer with inIndex := (buffer.inIndex + 1) % maxBuf }

/-- The producer executes `Buf.counter++`. -/
def BoundedBufferType.countUp (buffer : BoundedBufferType) : BoundedBufferType :=
  { buffer with counter := buffer.counter + 1 }

/-- The consumer reads `Buf.buf[Buf.out].data`. -/
def BoundedBufferType.load (buffer : BoundedBufferType) : ItemType := buffer.buf buffer.outIndex

/-- The consumer executes `Buf.out = (Buf.out + 1) % MAX_BUF`. -/
def BoundedBufferType.advanceOut (maxBuf : Nat) (buffer : BoundedBufferType) : BoundedBufferType :=
  { buffer with outIndex := (buffer.outIndex + 1) % maxBuf }

/-- The consumer executes `Buf.counter--`. -/
def BoundedBufferType.countDown (buffer : BoundedBufferType) : BoundedBufferType :=
  { buffer with counter := buffer.counter - 1 }

/-- The programs run threads of two kinds over one buffer. -/
inductive Role where
  | producer
  | consumer
  deriving DecidableEq, Repr

/-- The other role waits for the condition that this role signals. -/
def Role.other : Role → Role
  | .producer => .consumer
  | .consumer => .producer

/-- Each role advances its own index. -/
def Role.advance (maxBuf : Nat) : Role → BoundedBufferType → BoundedBufferType
  | .producer => BoundedBufferType.advanceIn maxBuf
  | .consumer => BoundedBufferType.advanceOut maxBuf

/-- Each role changes the counter in its own direction. -/
def Role.count : Role → BoundedBufferType → BoundedBufferType
  | .producer => BoundedBufferType.countUp
  | .consumer => BoundedBufferType.countDown

/-- The two roles are the two threads that `main` creates. -/
instance : Fintype Role := ⟨{.producer, .consumer}, fun role => by cases role <;> simp⟩

end BoundedBuffer

import LinuxSystemProgramming.Library.CString

namespace Chatc
open CString

/-- `SendID` cuts the line at its newline, and a line without a newline makes `strchr` return NULL. -/
def sendID (line : List UInt8) : Option (List UInt8) :=
  if 10 ∈ text line then some ((text line).takeWhile (· ≠ 10) ++ [0]) else none

/-- `SendMsg` sends the text of the line and its terminating zero. -/
def sendMsg (line : List UInt8) : List UInt8 := text line ++ [0]

/-- `MAX_BUF` is the size of the client's buffer. -/
def maxBuf : Nat := 256

/-- A line ends behind its newline, and a part of it has at most `count` bytes. -/
def chunk : Nat → List UInt8 → List UInt8
  | 0, _ => []
  | _ + 1, [] => []
  | count + 1, byte :: rest => if byte = 10 then [byte] else byte :: chunk count rest

/-- A chunk has at most `count` bytes. -/
theorem length_chunk_le (count : Nat) (stdin : List UInt8) : (chunk count stdin).length ≤ count := by
  induction count, stdin using chunk.induct with
  | case1 => exact Nat.zero_le _
  | case2 => exact Nat.zero_le _
  | case3 count rest => simp [chunk]
  | case4 count byte rest other ih => simpa [chunk, other] using ih

/-- A chunk of some input is not empty. -/
theorem length_chunk_pos {count : Nat} (positive : 0 < count) {stdin : List UInt8}
    (more : stdin ≠ []) : 0 < (chunk count stdin).length := by
  cases count with
  | zero => cases positive
  | succ count =>
      cases stdin with
      | nil => cases more rfl
      | cons byte rest =>
          rw [chunk]
          split <;> exact Nat.zero_lt_succ _

/-- The buffer has room for a chunk and a zero. -/
theorem chunk_fits (stdin : List UInt8) : (chunk (maxBuf - 1) stdin ++ [0]).length ≤ maxBuf := by
  have bound := length_chunk_le (maxBuf - 1) stdin
  rw [List.length_append, List.length_singleton]
  exact Nat.add_le_of_le_sub (by decide) bound

/-- `fgets(buf, MAX_BUF, stdin)` stores a chunk and a zero, and at the end of file it keeps the buffer. -/
def fgets (buf : Buffer maxBuf) (stdin : List UInt8) : Buffer maxBuf × List UInt8 :=
  if stdin = [] then (buf, [])
  else
    (buf.write (chunk (maxBuf - 1) stdin ++ [0]) (chunk_fits stdin),
      stdin.drop (chunk (maxBuf - 1) stdin).length)

/-- `SendMsg` sends its buffer after each `fgets`, whatever `fgets` returns. -/
def sendMsgs : Nat → Buffer maxBuf → List UInt8 → List (List UInt8)
  | 0, _, _ => []
  | iterations + 1, buf, stdin =>
      let got := fgets buf stdin
      sendMsg got.1.bytes :: sendMsgs iterations got.1 got.2

/-- The calls of `send` by `SendID` and by the first iterations of `SendMsg`. -/
def sends (iterations : Nat) (idBuf buf : Buffer maxBuf) (stdin : List UInt8) :
    Option (List (List UInt8)) :=
  let got := fgets idBuf stdin
  (sendID got.1.bytes).map fun login => login :: sendMsgs iterations buf got.2

/-- The chunks into which `fgets` cuts its input. -/
def chunks (stdin : List UInt8) : List (List UInt8) :=
  if more : stdin = [] then []
  else chunk (maxBuf - 1) stdin :: chunks (stdin.drop (chunk (maxBuf - 1) stdin).length)
termination_by stdin.length
decreasing_by
  have positive := length_chunk_pos (by decide : 0 < maxBuf - 1) more
  have some' := List.length_pos_iff.mpr more
  rw [List.length_drop]
  omega

/-- The encoding is the first line and each later chunk, each with a zero instead of its end. -/
def encoding (stdin : List UInt8) : List (List UInt8) :=
  (stdin.takeWhile (· ≠ 10) ++ [0]) ::
    (chunks ((stdin.dropWhile (· ≠ 10)).drop 1)).map (· ++ [0])

/-- From some iteration on, the encoding was sent and nothing else. -/
def Encodes (stdin : List UInt8) (idBuf buf : Buffer maxBuf) : Prop :=
  ∃ ended, ∀ iterations, ended ≤ iterations →
    sends iterations idBuf buf stdin = some (encoding stdin)

/-- `ReceiveMsg` prints its buffer after each receive, and it ends when nothing is received. -/
def receiveMsg (buf : Buffer maxBuf) : List (List UInt8) → Option (List (List UInt8))
  | [] => some []
  | received :: rest =>
      if received = [] then some []
      else if fits : received.length ≤ maxBuf then
        (buf.write received fits).read.bind fun printed =>
          (receiveMsg (buf.write received fits) rest).map fun later => printed :: later
      else none

end Chatc

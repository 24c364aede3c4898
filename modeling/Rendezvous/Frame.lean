import Rendezvous.BigEndian
import Rendezvous.Message.Encoding

/-!
# Frames

On a stream, a body of 1 to 65536 bytes stands behind its length in four big-endian bytes. The
writer refuses a body that is too long, the reader also a length of zero.
-/

namespace Rendezvous.Frame

/-! ## Algorithm -/

/-- The bytes of a frame. -/
def write (body : Bytes) : Except CodecError Bytes :=
  if body.length ≤ maxFrameSize then .ok (BigEndian.word32 body.length ++ body)
  else .error (.tooLarge body.length)

/-- What stands at the front of a stream. -/
inductive Front where
  /-- More bytes are needed to tell. -/
  | incomplete
  /-- A whole frame and what follows it. -/
  | whole (body rest : Bytes)
  /-- Four bytes that are no length of a frame, and what follows them. -/
  | invalid (cause : CodecError) (rest : Bytes)
deriving DecidableEq, Repr

/-- Looks at the front of a stream. -/
def front (s : Bytes) : Front :=
  match s with
  | a :: b :: c :: d :: rest =>
    let length := BigEndian.value [a, b, c, d]
    if maxFrameSize < length then .invalid (.tooLarge length) rest
    else if length = 0 then .invalid .empty rest
    else
      let body := rest.take length
      if body.length = length then .whole body (rest.drop length) else .incomplete
  | _ => .incomplete

/-- Reads one body off a stream that is complete. A read that fails takes what it could get of the
bytes it wanted. -/
def read (s : Bytes) : Except CodecError Bytes × Bytes :=
  match front s with
  | .incomplete => (.error (.stream true), [])
  | .whole body rest => (.ok body, rest)
  | .invalid cause rest => (.error cause, rest)

/-- Reads at most `fuel` bodies, behind those in `acc`, latest first. -/
def readUpTo : Nat → List Bytes → Bytes → List Bytes × CodecError × Bytes
  | 0, acc, s => (acc.reverse, .stream true, s)
  | fuel + 1, acc, s =>
    match read s with
    | (.ok body, rest) => readUpTo fuel (body :: acc) rest
    | (.error cause, rest) => (acc.reverse, cause, rest)

/-- Reads bodies until a read fails: the bodies, the failure and what is left of the stream. -/
def readAll (s : Bytes) : List Bytes × CodecError × Bytes := readUpTo (s.length + 1) [] s

/-! ## Lemmas -/

theorem write_eq_ok_iff {body frame : Bytes} :
    write body = .ok frame ↔
      body.length ≤ maxFrameSize ∧ frame = BigEndian.word32 body.length ++ body := by
  unfold write
  split
  · next h => simp [h, eq_comm]
  · next h => simp [h]

end Rendezvous.Frame

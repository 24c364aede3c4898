import Rendezvous.Json.Reader

/-!
# JSON: values of any type

Reads a value without knowing its type beforehand. Unlike a value that is passed over, its texts
must be well formed, its numbers finite, and its lists and objects nested less than 128 deep.
-/

namespace Rendezvous.Json

/-- A value that was read; numbers are not kept. -/
inductive Value where
  | null
  | flag (b : Bool)
  | number
  | text (s : String)
  | list (vs : List Value)
  | object (ms : List (String × Value))

namespace Value

mutual

/-- Reads one value with room for lists and objects nested less than `depth` deep. -/
def readAt : Nat → Nat → Bytes → Except Fault (Value × Bytes)
  | 0, _, _ => .error .ended
  | fuel + 1, depth, s =>
    match skipBlanks s with
    | [] => .error .ended
    | b :: rest =>
      if b = 0x6e then do return (.null, ← literal [0x75, 0x6c, 0x6c] rest)
      else if b = 0x74 then do return (.flag true, ← literal [0x72, 0x75, 0x65] rest)
      else if b = 0x66 then do return (.flag false, ← literal [0x61, 0x6c, 0x73, 0x65] rest)
      else if b = 0x2d || isDigit b then do
        let (_, rest) ← numeral (b :: rest)
        return (.number, rest)
      else if b = 0x22 then do
        let (t, rest) ← Json.text rest
        return (.text t, rest)
      else if b = 0x5b then
        if depth ≤ 1 then .error .malformed else readItems fuel (depth - 1) [] rest
      else if b = 0x7b then
        if depth ≤ 1 then .error .malformed else readMembers fuel (depth - 1) true [] rest
      else .error .malformed

/-- Reads the elements of a list behind those in `acc`, latest first. -/
def readItems : Nat → Nat → List Value → Bytes → Except Fault (Value × Bytes)
  | 0, _, _, _ => .error .ended
  | fuel + 1, depth, acc, s => do
    match ← nextElement acc.isEmpty s with
    | none => return (.list acc.reverse, ← endList s)
    | some s =>
      let (v, s) ← readAt fuel depth s
      readItems fuel depth (v :: acc) s

/-- Reads the members of an object behind those in `acc`, latest first. -/
def readMembers : Nat → Nat → Bool → List (String × Value) → Bytes → Except Fault (Value × Bytes)
  | 0, _, _, _, _ => .error .ended
  | fuel + 1, depth, first, acc, s => do
    match ← nextKey first s with
    | (none, s) => return (.object acc.reverse, s)
    | (some k, s) =>
      let s ← colon s
      let (v, s) ← readAt fuel depth s
      readMembers fuel depth false ((k, v) :: acc) s

end

/-- The nesting at which reading gives up. -/
def maxDepth : Nat := 128

def read : Reader Value := fun fuel s => readAt (2 * fuel) maxDepth s

/-- The value that a text consists of. -/
def decode (s : Bytes) : Except Fault Value := Json.decode read s

/-- The value under a key of an object; of several the last. -/
def get? (k : String) : Value → Option Value
  | .object ms => ms.reverse.lookup k
  | _ => none

def text? : Value → Option String
  | .text s => some s
  | _ => none

end Value

end Rendezvous.Json

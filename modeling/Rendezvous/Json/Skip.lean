import Rendezvous.Json.Digits

/-!
# JSON: values passed over

A value of no interest is only checked for being JSON: any depth, any size of number, any text
whose escapes have the right shape, and any keys, repeated ones too. Open brackets are kept on a
list, so depth costs no recursion.
-/

namespace Rendezvous.Json

/-- An open bracket. -/
inductive Bracket where
  | square
  | curly
deriving DecidableEq, Repr

/-- What follows once a value is complete inside the given brackets. -/
inductive Turn where
  /-- The outermost value is complete. -/
  | finished (rest : Bytes)
  /-- Another value of a list begins, or a value after its key. -/
  | next (brackets : List Bracket) (rest : Bytes)

/-- Passes over a value that is no list and no object. -/
def skipScalar : Bytes → Except Fault Bytes
  | [] => .error .ended
  | b :: rest =>
    if b = 0x6e then literal [0x75, 0x6c, 0x6c] rest
    else if b = 0x74 then literal [0x72, 0x75, 0x65] rest
    else if b = 0x66 then literal [0x61, 0x6c, 0x73, 0x65] rest
    else if b = 0x2d then skipUnsigned rest
    else if isDigit b then skipUnsigned (b :: rest)
    else if b = 0x22 then skipText rest
    else .error .malformed

/-- Passes over a key and its colon. -/
def skipKey (s : Bytes) : Except Fault Bytes := do
  match skipBlanks s with
  | [] => .error .ended
  | b :: rest =>
    if b = 0x22 then
      let rest ← skipText rest
      match skipBlanks rest with
      | [] => .error .ended
      | c :: rest => if c = 0x3a then .ok rest else .error .malformed
    else .error .malformed

/-- Goes from inside the innermost bracket to the next value. -/
def enter (brackets : List Bracket) (rest : Bytes) : Except Fault Turn :=
  match brackets with
  | .curly :: _ => do return .next brackets (← skipKey rest)
  | _ => .ok (.next brackets rest)

/-- Closes brackets until another value begins or none is open. `fresh` says that nothing stands
in the innermost bracket yet, so that a comma is not due. -/
def close (fresh : Bool) : List Bracket → Bytes → Except Fault Turn
  | [], s => .ok (.finished s)
  | bracket :: outer, s =>
    match skipBlanks s with
    | [] => .error .ended
    | b :: rest =>
      if b = 0x2c && !fresh then enter (bracket :: outer) rest
      else if b = (match bracket with | .square => 0x5d | .curly => 0x7d) then
        close false outer rest
      else if fresh then enter (bracket :: outer) (b :: rest)
      else .error .malformed

/-- Passes over values until no bracket is open; every turn takes at least one byte. -/
def skipOpen : Nat → List Bracket → Bytes → Except Fault Bytes
  | 0, _, _ => .error .ended
  | fuel + 1, brackets, s => do
    let turn ←
      match skipBlanks s with
      | [] => .error .ended
      | b :: rest =>
        if b = 0x5b then close true (.square :: brackets) rest
        else if b = 0x7b then close true (.curly :: brackets) rest
        else do
          let rest ← skipScalar (b :: rest)
          close false brackets rest
    match turn with
    | .finished rest => .ok rest
    | .next brackets rest => skipOpen fuel brackets rest

/-- Passes over one value. -/
def skipValue (fuel : Nat) (s : Bytes) : Except Fault Bytes := skipOpen fuel [] s

end Rendezvous.Json

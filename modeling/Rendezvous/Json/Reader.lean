import Rendezvous.Json.Skip
import Rendezvous.Table

/-!
# JSON: typed readers

A `Reader α` takes one value of type `α` off the front of a byte string. It stops at the first
problem from left to right, so it says that a value has the wrong type before it has looked at
all of it. The number that a reader gets bounds the turns of its loops; the length of the whole
input is always enough.
-/

namespace Rendezvous.Json

abbrev Reader (α : Type) := Nat → Bytes → Except Fault (α × Bytes)

/-! ## Scalars -/

/-- What is wrong where a value of another type stands: a scalar is read to its end first, a list
or an object is not. -/
def wrongType (expected : String) : Bytes → Fault
  | [] => .ended
  | b :: rest =>
    let mismatch (found : Found) (rest : Bytes) : Fault :=
      .mismatched (.type found expected) rest.length
    let after {α : Type} (found : α → Found) : Except Fault (α × Bytes) → Fault
      | .error f => f
      | .ok (a, rest) => mismatch (found a) rest
    let word (found : Found) (letters : Bytes) : Fault :=
      after (fun _ => found) ((literal letters rest).map fun rest => ((), rest))
    if b = 0x6e then word .null [0x75, 0x6c, 0x6c]
    else if b = 0x74 then word (.flag true) [0x72, 0x75, 0x65]
    else if b = 0x66 then word (.flag false) [0x61, 0x6c, 0x73, 0x65]
    else if b = 0x2d || isDigit b then after .number (numeral (b :: rest))
    else if b = 0x22 then after .text (text rest)
    else if b = 0x5b then mismatch .list (b :: rest)
    else if b = 0x7b then mismatch .object (b :: rest)
    else .malformed

/-- Reads a text. -/
def readText : Reader String := fun _ s =>
  match skipBlanks s with
  | [] => .error .ended
  | b :: rest => if b = 0x22 then text rest else .error (wrongType "a string" (b :: rest))

/-- Reads `true` or `false`. -/
def readFlag : Reader Bool := fun _ s =>
  match skipBlanks s with
  | [] => .error .ended
  | b :: rest =>
    if b = 0x74 then do return (true, ← literal [0x72, 0x75, 0x65] rest)
    else if b = 0x66 then do return (false, ← literal [0x61, 0x6c, 0x73, 0x65] rest)
    else .error (wrongType "a boolean" (b :: rest))

/-- Reads a natural number below 2 ^ 64. -/
def readWord : Reader UInt64 := fun _ s =>
  match skipBlanks s with
  | [] => .error .ended
  | b :: rest =>
    if b = 0x2d || isDigit b then do
      let (n, rest) ← numeral (b :: rest)
      match n with
      | .natural n => return (UInt64.ofNat n, rest)
      | .negative _ => throw (.mismatched (.range n "u64") rest.length)
      | .scaled .. => throw (.mismatched (.type (.number n) "u64") rest.length)
    else .error (wrongType "u64" (b :: rest))

/-- Reads a value or `null`. -/
def readOptional {α : Type} (read : Reader α) : Reader (Option α) := fun fuel s =>
  match skipBlanks s with
  | [] => .error .ended
  | b :: rest =>
    if b = 0x6e then do return (none, ← literal [0x75, 0x6c, 0x6c] rest)
    else do
      let (a, rest) ← read fuel (b :: rest)
      return (some a, rest)

/-! ## Lists and objects -/

/-- Moves to the next element of a list: nothing at its end. -/
def nextElement (first : Bool) (s : Bytes) : Except Fault (Option Bytes) :=
  match skipBlanks s with
  | [] => .error .ended
  | b :: rest =>
    if b = 0x5d then .ok none
    else if first then .ok (some (b :: rest))
    else if b = 0x2c then
      match skipBlanks rest with
      | [] => .error .ended
      | c :: rest => if c = 0x5d then .error .malformed else .ok (some (c :: rest))
    else .error .malformed

/-- Takes the bracket at the end of a list. -/
def endList (s : Bytes) : Except Fault Bytes :=
  match skipBlanks s with
  | [] => .error .ended
  | b :: rest => if b = 0x5d then .ok rest else .error .malformed

/-- Moves to the next key of an object and reads it: nothing at the object's end, which is taken. -/
def nextKey (first : Bool) (s : Bytes) : Except Fault (Option String × Bytes) :=
  match skipBlanks s with
  | [] => .error .ended
  | b :: rest =>
    if b = 0x7d then .ok (none, rest)
    else
      let key : Bytes → Except Fault (Option String × Bytes)
        | [] => .error .ended
        | c :: rest =>
          if c = 0x22 then do
            let (k, rest) ← text rest
            return (some k, rest)
          else .error .malformed
      if first then key (b :: rest)
      else if b = 0x2c then key (skipBlanks rest)
      else .error .malformed

/-- Takes the colon behind a key. -/
def colon (s : Bytes) : Except Fault Bytes :=
  match skipBlanks s with
  | [] => .error .ended
  | b :: rest => if b = 0x3a then .ok rest else .error .malformed

/-- Reads the elements of a list behind those in `acc`, latest first. -/
def elements {α : Type} (read : Reader α) (whole : Nat) :
    Nat → List α → Bytes → Except Fault (List α × Bytes)
  | 0, _, _ => .error .ended
  | fuel + 1, acc, s => do
    match ← nextElement acc.isEmpty s with
    | none => return (acc.reverse, ← endList s)
    | some s =>
      let (a, s) ← read whole s
      elements read whole fuel (a :: acc) s

/-- Reads a list. -/
def readList {α : Type} (read : Reader α) : Reader (List α) := fun fuel s =>
  match skipBlanks s with
  | [] => .error .ended
  | b :: rest =>
    if b = 0x5b then elements read fuel fuel [] rest
    else .error (wrongType "a sequence" (b :: rest))

/-- Reads the entries of an object into a table; a repeated key counts once, with its last
value. -/
def tableEntries {α : Type} (read : Reader α) (whole : Nat) :
    Nat → Bool → Table String α → Bytes → Except Fault (Table String α × Bytes)
  | 0, _, _, _ => .error .ended
  | fuel + 1, first, t, s => do
    match ← nextKey first s with
    | (none, s) => return (t, s)
    | (some k, s) =>
      let s ← colon s
      let (a, s) ← read whole s
      tableEntries read whole fuel false (t.insert k a) s

/-- Reads an object whose keys are not known beforehand. -/
def readTable {α : Type} (read : Reader α) : Reader (Table String α) := fun fuel s =>
  match skipBlanks s with
  | [] => .error .ended
  | b :: rest =>
    if b = 0x7b then tableEntries read fuel fuel true .empty rest
    else .error (wrongType "a map" (b :: rest))

/-! ## Whole inputs -/

/-- Reads one value that makes up the whole input, blanks aside. -/
def decode {α : Type} (read : Reader α) (s : Bytes) : Except Fault α := do
  let (a, rest) ← read (s.length + 1) s
  if (skipBlanks rest).isEmpty then .ok a else .error .malformed

end Rendezvous.Json

import Rendezvous.Json.Reader

/-!
# JSON: records

A record type is described by its fields in their order. Its values are written as objects; they
may also be given as lists of the field values in order, where fields that are not required may
be missing at the end. In an object, fields come in any order, each at most once, and members of
other names are passed over.
-/

namespace Rendezvous.Json

/-- A field of records of type `σ`: its reader takes a value and puts it into a draft. -/
structure RecordField (σ : Type) where
  name : String
  required : Bool
  read : σ → Reader σ

namespace RecordField

/-- A field that must be given. -/
def needed {σ α : Type} (name : String) (read : Reader α) (put : σ → α → σ) : RecordField σ :=
  ⟨name, true, fun draft fuel s => do
    let (a, s) ← read fuel s
    return (put draft a, s)⟩

/-- A field that keeps the draft's value if it is not given. -/
def defaulted {σ α : Type} (name : String) (read : Reader α) (put : σ → α → σ) : RecordField σ :=
  ⟨name, false, fun draft fuel s => do
    let (a, s) ← read fuel s
    return (put draft a, s)⟩

end RecordField

/-- Reads the fields of a record from a list. `expected` names the whole list and `place` counts the
fields passed so far. -/
def positional {σ : Type} (expected : String) (fuel : Nat) :
    List (RecordField σ) → Nat → Bool → σ → Bytes → Except Fault (σ × Bytes)
  | [], _, _, draft, s => do return (draft, ← endList s)
  | f :: fields, place, first, draft, s => do
    match ← nextElement first s with
    | none =>
      if f.required then throw (.mismatched (.length place expected) (← endList s).length)
      else positional expected fuel fields (place + 1) first draft s
    | some s =>
      let (draft, s) ← f.read draft fuel s
      positional expected fuel fields (place + 1) false draft s

/-- What is left behind an object that is given up. Its closing brace is still taken if it comes
next. -/
def leaveObject (s : Bytes) : Bytes :=
  match skipBlanks s with
  | [] => []
  | b :: rest => if b = 0x7d then rest else b :: rest

/-- Reads the members of a record from an object; `seen` holds the fields given so far. A repeated
field is noticed once its key is read. -/
def members {σ : Type} (fields : List (RecordField σ)) (whole : Nat) :
    Nat → Bool → List String → σ → Bytes → Except Fault (List String × σ × Bytes)
  | 0, _, _, _, _ => .error .ended
  | fuel + 1, first, seen, draft, s => do
    match ← nextKey first s with
    | (none, s) => return (seen, draft, s)
    | (some k, s) =>
      match fields.find? (·.name == k) with
      | some f =>
        if seen.contains k then throw (.mismatched (.repeated k) (leaveObject s).length)
        else
          let s ← colon s
          let (draft, s) ← f.read draft whole s
          members fields whole fuel false (k :: seen) draft s
      | none =>
        let s ← colon s
        let s ← skipValue whole s
        members fields whole fuel false seen draft s

/-- Reads a record of a named type, starting from `blank`. Of several fields that are missing from
an object the first is reported. -/
def readRecord {σ : Type} (name : String) (fields : List (RecordField σ)) (blank : σ) :
    Reader σ := fun fuel s =>
  let expected := "struct " ++ name
  match skipBlanks s with
  | [] => .error .ended
  | b :: rest =>
    if b = 0x5b then
      positional (expected ++ " with " ++ toString fields.length ++ " elements") fuel fields 0 true
        blank rest
    else if b = 0x7b then do
      let (seen, draft, rest) ← members fields fuel fuel true [] blank rest
      match fields.find? fun f => f.required && !seen.contains f.name with
      | some f => throw (.mismatched (.missing f.name) rest.length)
      | none => return (draft, rest)
    else .error (wrongType expected (b :: rest))

end Rendezvous.Json

import Rendezvous.Json.Numeral
import Rendezvous.Text.Quoted
import Rendezvous.Text.Utf8

/-!
# JSON: faults

What is wrong with bytes that were to be read, and the text that tells it. A value of the wrong
type is named in the text, and so is the line and column where reading stopped. Of bytes that end
early or are no JSON the library that reads them speaks in words of its own, which are an argument
here.
-/

namespace Rendezvous.Json

/-! ## Causes -/

/-- What stands where a value of another type was wanted. -/
inductive Found where
  | null
  | flag (b : Bool)
  | number (n : Numeral)
  | text (s : String)
  | list
  | object
deriving DecidableEq, Repr

/-- How a value differs from what was wanted. -/
inductive Mismatch where
  | type (found : Found) (expected : String)
  /-- A number of the right type is out of range. -/
  | range (found : Numeral) (expected : String)
  /-- A list ends before the field at this place. -/
  | length (place : Nat) (expected : String)
  | missing (name : String)
  | repeated (name : String)
deriving DecidableEq, Repr

/-- Why bytes are no acceptable JSON: they end early, they are not JSON, or they are JSON of
another type than the one wanted, with `behind` bytes left where that was noticed. -/
inductive Fault where
  | ended
  | malformed
  | mismatched (cause : Mismatch) (behind : Nat)
deriving DecidableEq, Repr

/-! ## Text -/

def Found.phrase : Found → String
  | .null => "null"
  | .flag true => "boolean `true`"
  | .flag false => "boolean `false`"
  | .number n => n.phrase
  | .text s => "string " ++ Text.quoted s
  | .list => "sequence"
  | .object => "map"

def Mismatch.message : Mismatch → String
  | .type found expected => "invalid type: " ++ found.phrase ++ ", expected " ++ expected
  | .range found expected => "invalid value: " ++ found.phrase ++ ", expected " ++ expected
  | .length place expected => "invalid length " ++ toString place ++ ", expected " ++ expected
  | .missing name => "missing field `" ++ name ++ "`"
  | .repeated name => "duplicate field `" ++ name ++ "`"

/-- The line of the place behind some bytes, counted from one, and the number of bytes since that
line began. -/
def place (before : Bytes) : Nat × Nat :=
  (before.count 0x0a + 1, (before.reverse.takeWhile (· != 0x0a)).length)

/-- The text of a fault in an input; `wording` is what the library says of bytes that end early or
are no JSON. -/
def Fault.message (wording : String) (input : Bytes) : Fault → String
  | .ended | .malformed => wording
  | .mismatched cause behind =>
    let (line, column) := place (input.take (input.length - behind))
    cause.message ++ " at line " ++ toString line ++ " column " ++ toString column

end Rendezvous.Json

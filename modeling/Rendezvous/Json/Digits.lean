import Rendezvous.Json.Lexical

/-!
# JSON: the notation of numbers

A number that is read must have a finite value; a number that is passed over may have any size.
Digits that no longer fit into 64 bits only move the power of ten.
-/

namespace Rendezvous.Json

def isDigit (b : UInt8) : Bool := 0x30 ≤ b && b ≤ 0x39

def digitValue (b : UInt8) : Nat := b.toNat - 0x30

def isExponentMark (b : UInt8) : Bool := b == 0x65 || b == 0x45

/-- The largest significand that is kept exactly. -/
def maxSignificand : Nat := UInt64.size - 1

/-! ## Reading -/

/-- Digits of the integer part: the significand, and how many digits did not fit into it. -/
def integerDigits (ds : Bytes) : Nat × Nat :=
  ds.foldl (fun (significand, dropped) d =>
    let next := significand * 10 + digitValue d
    if dropped = 0 && next ≤ maxSignificand then (next, 0) else (significand, dropped + 1)) (0, 0)

/-- Digits of the fraction: the significand, how many digits it took, and whether it is full. -/
def fractionDigits (significand : Nat) (ds : Bytes) : Nat × Nat × Bool :=
  ds.foldl (fun (significand, taken, full) d =>
    let next := significand * 10 + digitValue d
    if !full && next ≤ maxSignificand then (next, taken + 1, false) else (significand, taken, true))
    (significand, 0, false)

/-- The largest exponent that is told apart from larger ones. -/
def maxExponent : Nat := 0x7fffffff

/-- The value of a run of digits; one past the largest exponent stands for all larger values. -/
def exponentDigits (ds : Bytes) : Nat :=
  ds.foldl (fun n d => min (n * 10 + digitValue d) (maxExponent + 1)) 0

/-- A whole number: of 64 bits with or without a sign, or else a value like one with a fraction.
The negative zero is such a value. -/
def wholeNumber (isNegative : Bool) (n : Nat) : Numeral :=
  if !isNegative then .natural n
  else if n = 0 || 0x8000000000000000 < n then .scaled true n 0
  else .negative n

/-- A number with a power of ten: fine if its value is finite. -/
def finish (isNegative : Bool) (significand : Nat) (exponent : Int) (rest : Bytes) :
    Except Fault (Numeral × Bytes) :=
  if overflows significand exponent then .error .malformed
  else .ok (.scaled isNegative significand exponent, rest)

/-- Reads an exponent after its mark. An exponent beyond 31 bits is too large unless it is
negative or the significand is zero; the value is zero then. -/
def exponent (isNegative : Bool) (significand : Nat) (scale : Int) (s : Bytes) :
    Except Fault (Numeral × Bytes) :=
  let falls := s.head? == some 0x2d
  let s := if falls || s.head? == some 0x2b then s.tail else s
  let ds := s.takeWhile isDigit
  let rest := s.dropWhile isDigit
  if s.isEmpty then .error .ended
  else if ds.isEmpty then .error .malformed
  else
    let e := exponentDigits ds
    if e ≤ maxExponent then
      finish isNegative significand (if falls then scale - e else scale + e) rest
    else if significand ≠ 0 && !falls then .error .malformed
    else .ok (.scaled isNegative 0 0, rest)

/-- Reads a fraction after its point. -/
def fraction (isNegative : Bool) (significand : Nat) (scale : Int) (s : Bytes) :
    Except Fault (Numeral × Bytes) :=
  let ds := s.takeWhile isDigit
  let rest := s.dropWhile isDigit
  if s.isEmpty then .error .ended
  else if ds.isEmpty then .error .malformed
  else
    let (significand, taken, _) := fractionDigits significand ds
    let scale := scale - taken
    match rest with
    | b :: after =>
      if isExponentMark b then exponent isNegative significand scale after
      else finish isNegative significand scale rest
    | [] => finish isNegative significand scale rest

/-- Reads a number after its sign. -/
def unsigned (isNegative : Bool) (s : Bytes) : Except Fault (Numeral × Bytes) :=
  let ds := s.takeWhile isDigit
  let rest := s.dropWhile isDigit
  if s.isEmpty then .error .ended
  else if ds.isEmpty || (ds.head? == some 0x30 && 1 < ds.length) then .error .malformed
  else
    let (significand, dropped) := integerDigits ds
    let whole : Except Fault (Numeral × Bytes) :=
      if dropped = 0 then .ok (wholeNumber isNegative significand, rest)
      else finish isNegative significand dropped rest
    match rest with
    | b :: after =>
      if b = 0x2e then fraction isNegative significand dropped after
      else if isExponentMark b then exponent isNegative significand dropped after
      else whole
    | [] => whole

/-- Reads a number. -/
def numeral : Bytes → Except Fault (Numeral × Bytes)
  | [] => .error .ended
  | b :: s => if b = 0x2d then unsigned true s else unsigned false (b :: s)

/-! ## Passing over -/

/-- Passes over an exponent after its mark. -/
def skipExponent (s : Bytes) : Except Fault Bytes :=
  let s := if s.head? == some 0x2d || s.head? == some 0x2b then s.tail else s
  if (s.takeWhile isDigit).isEmpty then .error .malformed else .ok (s.dropWhile isDigit)

/-- Passes over a fraction after its point. -/
def skipFraction (s : Bytes) : Except Fault Bytes :=
  if (s.takeWhile isDigit).isEmpty then .error .malformed
  else
    match s.dropWhile isDigit with
    | b :: after => if isExponentMark b then skipExponent after else .ok (b :: after)
    | [] => .ok []

/-- Passes over a number after its sign. -/
def skipUnsigned (s : Bytes) : Except Fault Bytes :=
  let ds := s.takeWhile isDigit
  if ds.isEmpty || (ds.head? == some 0x30 && 1 < ds.length) then .error .malformed
  else
    match s.dropWhile isDigit with
    | b :: after =>
      if b = 0x2e then skipFraction after
      else if isExponentMark b then skipExponent after
      else .ok (b :: after)
    | [] => .ok []

end Rendezvous.Json

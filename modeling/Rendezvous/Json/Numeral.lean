import Rendezvous.Binary64.Shortest

/-!
# JSON: the numbers

A whole number of 64 bits is kept as it is; any other number is kept as its digits and a power of
ten, which stand for a value of binary floating point. A number is shown in the shortest decimal
of its value: with its digits around the point as long as the first of them stands at most sixteen
places before it or five behind it, else with an exponent.
-/

namespace Rendezvous.Json

/-- A number that was read. -/
inductive Numeral where
  | natural (n : Nat)
  /-- The whole number `-n`. -/
  | negative (n : Nat)
  /-- The value `significand * 10 ^ exponent`, or its opposite. -/
  | scaled (isNegative : Bool) (significand : Nat) (exponent : Int)
deriving DecidableEq, Repr

/-! ## Values -/

/-- A power of ten, rounded. -/
def powerOfTen (exponent : Nat) : Binary64 := Binary64.ofNat (Nat.pow 10 exponent)

/-- The largest exponent whose power of ten has a finite value. -/
def maxPower : Nat := 308

/-- Divides by a power of ten in steps with powers of finite value; nothing is left to do once the
value is zero. -/
def scaleDown (x : Binary64) (exponent : Nat) : Binary64 :=
  if x.mantissa = 0 then x
  else if exponent ≤ maxPower then x.div (powerOfTen exponent)
  else scaleDown (x.div (powerOfTen maxPower)) (exponent - maxPower)
termination_by exponent
decreasing_by simp only [maxPower] at *; omega

/-- The value of `significand * 10 ^ exponent`: both factors and then their product or quotient
are rounded. -/
def scaledValue (significand : Nat) (exponent : Int) : Binary64 :=
  if exponent < 0 then scaleDown (Binary64.ofNat significand) (-exponent).toNat
  else (Binary64.ofNat significand).mul (powerOfTen exponent.toNat)

/-- Whether `significand * 10 ^ exponent` is too large for a finite value. -/
def overflows (significand : Nat) (exponent : Int) : Bool :=
  if significand = 0 || exponent < 0 then false
  else if maxPower < exponent then true
  else !(scaledValue significand exponent).isFinite

/-- Rounding both factors before the product moves the limit: at the exponent 292 it lies between
these two significands. -/
example : overflows 17976931348623157 292 = false ∧ overflows 17976931348623158 292 = true := by
  decide +kernel

/-! ## Text -/

def zeros (n : Nat) : List Char := List.replicate n '0'

/-- A decimal with a point or an exponent; `point` is how many of its digits stand before the
point. -/
def decimalText (d : Decimal) : String :=
  let digits := Nat.toDigits 10 d.digits
  let point : Int := digits.length + d.exponent
  let chars : List Char :=
    if point ≤ -5 || 16 < point then
      let sign := if point < 1 then '-' else '+'
      let fraction := if digits.length = 1 then [] else '.' :: digits.tail
      digits.take 1 ++ fraction ++ 'e' :: sign :: Nat.toDigits 10 (point - 1).natAbs
    else if point ≤ 0 then '0' :: '.' :: zeros (-point).toNat ++ digits
    else if 0 ≤ d.exponent then digits ++ zeros d.exponent.toNat ++ ['.', '0']
    else digits.take point.toNat ++ '.' :: digits.drop point.toNat
  String.ofList chars

/-- The kind of a number and its text between backquotes. -/
def Numeral.phrase : Numeral → String
  | .natural n => "integer `" ++ toString n ++ "`"
  | .negative n => "integer `-" ++ toString n ++ "`"
  | .scaled isNegative significand exponent =>
    let value := if significand = 0 then ⟨0, 0⟩ else (scaledValue significand exponent).shortest
    "floating point `" ++ (if isNegative then "-" else "") ++ decimalText value ++ "`"

/-- The two layouts, at their limits. -/
example :
    (Numeral.scaled false 12345 (-2)).phrase = "floating point `123.45`" ∧
      (Numeral.scaled true 0 7).phrase = "floating point `-0.0`" ∧
      (Numeral.scaled false 1 15).phrase = "floating point `1000000000000000.0`" ∧
      (Numeral.scaled false 15 15).phrase = "floating point `1.5e+16`" ∧
      (Numeral.scaled false 15 (-6)).phrase = "floating point `0.000015`" ∧
      (Numeral.scaled false 1 (-6)).phrase = "floating point `1e-6`" := by
  decide +kernel

end Rendezvous.Json

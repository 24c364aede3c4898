/-!
# Binary floating point

The values of 64-bit binary floating point that are not negative: a mantissa below 2 ^ 53 times a
power of two of at least 2 ^ -1074. Each operation forms the exact result and rounds it once, a
half to the even neighbour, so that every step is arithmetic of natural numbers. Powers of two have
no upper end here; a value is finite up to 2 ^ 971.
-/

namespace Rendezvous

/-- The value `mantissa * 2 ^ exponent`. -/
structure Binary64 where
  mantissa : Nat
  exponent : Int
deriving DecidableEq, Repr

namespace Binary64

/-! ## Rounding -/

def minExponent : Int := -1074

def maxExponent : Int := 971

/-- A quotient rounded to a whole number, a half to the even neighbour. -/
def roundDiv (num den : Nat) : Nat :=
  let low := num / den
  let excess := num % den
  if den < 2 * excess || (2 * excess == den && low % 2 == 1) then low + 1 else low

/-- The power of two at or next below a quotient of positive numbers. -/
def log2Div (num den : Nat) : Int :=
  let top : Int := (num.log2 : Int) - den.log2
  if num <<< (-top).toNat < den <<< top.toNat then top - 1 else top

/-- The value nearest to a quotient. -/
def ofRatio (num den : Nat) : Binary64 :=
  let exponent := max (log2Div num den - 52) minExponent
  let mantissa := roundDiv (num <<< (-exponent).toNat) (den <<< exponent.toNat)
  if num = 0 then ⟨0, minExponent⟩
  else if mantissa = 1 <<< 53 then ⟨1 <<< 52, exponent + 1⟩
  else ⟨mantissa, exponent⟩

/-- One tenth, one third, the smallest value and half of it. -/
example :
    ofRatio 1 10 = ⟨0x1999999999999a, -56⟩ ∧ ofRatio 1 3 = ⟨0x15555555555555, -54⟩ ∧
      ofRatio 1 (1 <<< 1074) = ⟨1, -1074⟩ ∧ ofRatio 1 (1 <<< 1075) = ⟨0, -1074⟩ := by
  decide +kernel

/-! ## Operations -/

def ofNat (n : Nat) : Binary64 := ofRatio n 1

def isFinite (x : Binary64) : Bool := x.exponent ≤ maxExponent

def mul (x y : Binary64) : Binary64 :=
  let exponent := x.exponent + y.exponent
  ofRatio ((x.mantissa * y.mantissa) <<< exponent.toNat) (1 <<< (-exponent).toNat)

/-- The quotient by a value other than zero. -/
def div (x y : Binary64) : Binary64 :=
  let exponent := x.exponent - y.exponent
  ofRatio (x.mantissa <<< exponent.toNat) (y.mantissa <<< (-exponent).toNat)

end Binary64

end Rendezvous

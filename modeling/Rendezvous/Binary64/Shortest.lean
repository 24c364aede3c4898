import Rendezvous.Binary64

/-!
# Shortest decimals

The decimal that stands for a value of binary floating point: of the decimals that are read as the
value, those with the fewest digits, and of these the nearest. Found by trying grids of powers of
ten from the coarsest on; on each grid only the two neighbours of the value can be close enough.
-/

namespace Rendezvous

/-- The value `digits * 10 ^ exponent`. -/
structure Decimal where
  digits : Nat
  exponent : Int
deriving DecidableEq, Repr

/-! ## Reading back -/

/-- Whether a decimal is read as a value other than zero: it is nearer to it than to any other
value, or half way and the mantissa is even. Distances are taken in quarters of the last place,
since below a power of two the neighbour is only half as far. -/
def Decimal.readsAs (d : Decimal) (x : Binary64) : Bool :=
  let quarter := x.exponent - 2
  let decimal := (d.digits * Nat.pow 10 d.exponent.toNat) <<< (-quarter).toNat
  let unit := Nat.pow 10 (-d.exponent).toNat <<< quarter.toNat
  let below := if x.mantissa = 1 <<< 52 && Binary64.minExponent < x.exponent then 1 else 2
  let low := (4 * x.mantissa - below) * unit
  let high := (4 * x.mantissa + 2) * unit
  if x.mantissa % 2 = 0 then low ≤ decimal && decimal ≤ high else low < decimal && decimal < high

namespace Binary64

/-! ## Grids -/

/-- A value in units of a power of ten, as a quotient. -/
def inUnits (x : Binary64) (exponent : Int) : Nat × Nat :=
  ((x.mantissa * Nat.pow 10 (-exponent).toNat) <<< x.exponent.toNat,
   Nat.pow 10 exponent.toNat <<< (-x.exponent).toNat)

/-- The power of ten at or next below a value other than zero. All values are at least
10 ^ -400. -/
def log10 (x : Binary64) : Int :=
  let (num, den) := x.inUnits (-400)
  ((Nat.toDigits 10 (num / den)).length : Int) - 401

/-- The decimal on a grid that is read as a value, the nearer one of two. -/
def onGrid? (x : Binary64) (exponent : Int) : Option Decimal :=
  let (num, den) := x.inUnits exponent
  let low := num / den
  let near := roundDiv num den
  let far := if near = low then low + 1 else low
  ([⟨near, exponent⟩, ⟨far, exponent⟩] : List Decimal).find? (·.readsAs x)

/-- The shortest decimal; seventeen digits are always enough. -/
def shortest (x : Binary64) : Decimal :=
  if x.mantissa = 0 then ⟨0, 0⟩
  else ((List.range 18).findSome? fun (n : Nat) => x.onGrid? (x.log10 + 1 - n)).getD ⟨0, 0⟩

/-- The smallest value, one tenth, a power of two and the largest finite value. -/
example :
    shortest ⟨1, -1074⟩ = ⟨5, -324⟩ ∧ shortest ⟨0x1999999999999a, -56⟩ = ⟨1, -1⟩ ∧
      shortest ⟨1 <<< 52, -1073⟩ = ⟨4450147717014403, -323⟩ ∧
      shortest ⟨(1 <<< 53) - 1, 971⟩ = ⟨17976931348623157, 292⟩ := by
  decide +kernel

end Binary64

end Rendezvous

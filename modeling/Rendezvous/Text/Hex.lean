import Rendezvous.Text.Utf8

/-!
# Hexadecimal

Bytes are written as two lowercase digits each; reading also accepts capitals and refuses
everything else, odd lengths included.

    decode? (encode bs) = some bs                     (decode?_encode)
-/

namespace Rendezvous.Hex

/-! ## Algorithm -/

def digits : List Char := "0123456789abcdef".toList

/-- The digit of a value below sixteen. -/
def digit (n : Nat) : Char := digits.getD n '0'

/-- The value of a digit in either case. -/
def value? (c : Char) : Option Nat := digits.findIdx? (· == c.toLower)

def chars (bs : Bytes) : List Char :=
  bs.flatMap fun b => [digit (b.toNat / 16), digit (b.toNat % 16)]

/-- Two lowercase digits per byte. -/
def encode (bs : Bytes) : String := String.ofList (chars bs)

def ofChars? : List Char → Option Bytes
  | [] => some []
  | [_] => none
  | a :: b :: rest =>
    match value? a, value? b, ofChars? rest with
    | some x, some y, some bs => some (UInt8.ofNat (x * 16 + y) :: bs)
    | _, _, _ => none

def decode? (s : String) : Option Bytes := ofChars? s.toList

/-! ## Lemmas -/

theorem value?_digit : ∀ n, n < 16 → value? (digit n) = some n := by decide

theorem ofChars?_chars (bs : Bytes) : ofChars? (chars bs) = some bs := by
  induction bs with
  | nil => rfl
  | cons b bs ih =>
    have hb : b.toNat < 256 := b.toNat_lt
    have e : chars (b :: bs) = digit (b.toNat / 16) :: digit (b.toNat % 16) :: chars bs := rfl
    rw [e, ofChars?, value?_digit _ (by omega), value?_digit _ (by omega), ih]
    simp [show b.toNat / 16 * 16 + b.toNat % 16 = b.toNat by omega]

theorem decode?_encode (bs : Bytes) : decode? (encode bs) = some bs := by
  simp [decode?, encode, ofChars?_chars]

end Rendezvous.Hex

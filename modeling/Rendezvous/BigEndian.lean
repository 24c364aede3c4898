import Rendezvous.Text.Utf8

/-!
# Big-endian words

Fixed-width fields of frames, packets and digests: the most significant byte comes first, and a
value too large for its field is reduced modulo the field.

    value (word16 n) = n % 0x10000                    (value_word16)
    value (word32 n) = n % 0x100000000                (value_word32)
    word16 (value [a, b]) = [a, b]                    (word16_value)
    word32 (value [a, b, c, d]) = [a, b, c, d]        (word32_value)
-/

namespace Rendezvous.BigEndian

/-- The number that a run of bytes spells. -/
def value (bs : Bytes) : Nat := bs.foldl (fun n b => n * 256 + b.toNat) 0

def word16 (n : Nat) : Bytes := [UInt8.ofNat (n / 0x100), UInt8.ofNat n]

def word32 (n : Nat) : Bytes :=
  [UInt8.ofNat (n / 0x1000000), UInt8.ofNat (n / 0x10000), UInt8.ofNat (n / 0x100), UInt8.ofNat n]

def word64 (n : Nat) : Bytes := word32 (n / 0x100000000) ++ word32 n

/-! ## Lemmas -/

theorem value_word16 (n : Nat) : value (word16 n) = n % 0x10000 := by
  simp [value, word16]
  omega

theorem value_word32 (n : Nat) : value (word32 n) = n % 0x100000000 := by
  simp [value, word32]
  omega

theorem word32_value (a b c d : UInt8) : word32 (value [a, b, c, d]) = [a, b, c, d] := by
  have ha := a.toNat_lt
  have hb := b.toNat_lt
  have hc := c.toNat_lt
  have hd := d.toNat_lt
  simp only [word32, value, List.foldl_cons, List.foldl_nil, List.cons.injEq, and_true]
  refine ⟨?_, ?_, ?_, ?_⟩ <;>
    exact UInt8.toNat.inj (by simp only [UInt8.toNat_ofNat']; omega)

theorem word16_value (a b : UInt8) : word16 (value [a, b]) = [a, b] := by
  have ha := a.toNat_lt
  have hb := b.toNat_lt
  simp only [word16, value, List.foldl_cons, List.foldl_nil, List.cons.injEq, and_true]
  constructor <;> exact UInt8.toNat.inj (by simp only [UInt8.toNat_ofNat']; omega)

theorem value_pair_lt (a b : UInt8) : value [a, b] < 0x10000 := by
  have ha := a.toNat_lt
  have hb := b.toNat_lt
  simp only [value, List.foldl_cons, List.foldl_nil]
  omega

/-- The bytes of a number that fits into its field are the ones that spell it. -/
theorem word16_eq_iff {n : Nat} (fits : n < 0x10000) {a b : UInt8} :
    word16 n = [a, b] ↔ n = value [a, b] := by
  constructor
  · intro spelled
    rw [← spelled, value_word16, Nat.mod_eq_of_lt fits]
  · rintro rfl
    exact word16_value a b

theorem length_word16 (n : Nat) : (word16 n).length = 2 := rfl

theorem length_word32 (n : Nat) : (word32 n).length = 4 := rfl

end Rendezvous.BigEndian

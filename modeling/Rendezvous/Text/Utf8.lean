/-!
# Text as bytes

Lengths, digests, frames and packets are all measured on the UTF-8 bytes of a text, so the
library passes between `String` and `Bytes` in both directions:

    decode? (encode s) = some s                       (decode?_encode)
    decode? bs = some s  →  encode s = bs             (encode_of_decode?)
    decodeReplacing (encode s) = s                    (decodeReplacing_encode)
    s < t  →  encode s < encode t                     (encode_lt_encode)

Bytes that are no text can still be shown: what is not well formed becomes U+FFFD, one for each
longest part that could have begun a character.
-/

namespace Rendezvous

/-- A byte string, as it stands in a frame, a packet or a file. -/
abbrev Bytes := List UInt8

namespace Utf8

/-! ## Algorithm -/

/-- The UTF-8 bytes of a text. -/
def encode (s : String) : Bytes := s.toByteArray.data.toList

/-- The text whose UTF-8 bytes these are, if they are well formed. -/
def decode? (bs : Bytes) : Option String := String.fromUTF8? ⟨bs.toArray⟩

/-- How many bytes a character has after its first one, and the bounds of the second. -/
def following (first : UInt8) : Nat × UInt8 × UInt8 :=
  if first < 0xc2 then (0, 0x80, 0xbf)
  else if first < 0xe0 then (1, 0x80, 0xbf)
  else if first < 0xf0 then
    (2, if first = 0xe0 then 0xa0 else 0x80, if first = 0xed then 0x9f else 0xbf)
  else if first < 0xf5 then
    (3, if first = 0xf0 then 0x90 else 0x80, if first = 0xf4 then 0x8f else 0xbf)
  else (0, 0x80, 0xbf)

/-- The bytes that continue a character: at most `n`, the first of them within the bounds. -/
def continuation : Nat × UInt8 × UInt8 → Bytes → Bytes
  | (n + 1, low, high), b :: rest =>
    if low ≤ b && b ≤ high then b :: continuation (n, 0x80, 0xbf) rest else []
  | _, _ => []

/-- The characters in order; a piece that ends before its character does is replaced. -/
def pieces (bs : Bytes) : List String :=
  match bs with
  | [] => []
  | b :: rest =>
    let more := continuation (following b) rest
    (decode? (b :: more)).getD "\ufffd" :: pieces (rest.drop more.length)
termination_by bs.length

/-- A surrogate has no form at all, so each of its bytes is replaced; a character cut short is
replaced once. -/
example :
    pieces [0xed, 0xa0, 0x80] = ["\ufffd", "\ufffd", "\ufffd"] ∧
      pieces [0xe2, 0x82, 0x61] = ["\ufffd", "a"] ∧
      pieces [0xf0, 0x90, 0x80, 0x80, 0xf4, 0x90] = ["𐀀", "\ufffd", "\ufffd"] := by
  decide +kernel

/-- Bytes as a text, with a replacement character for each piece that is not well formed. -/
def decodeReplacing (bs : Bytes) : String := (decode? bs).getD (String.join (pieces bs))

/-! ## Lemmas -/

theorem decode?_encode (s : String) : decode? (encode s) = some s := by
  unfold decode? encode String.fromUTF8?
  rw [Array.toArray_toList]
  exact dif_pos s.isValidUTF8

theorem encode_of_decode? {bs : Bytes} {s : String} (h : decode? bs = some s) : encode s = bs := by
  simp only [decode?, String.fromUTF8?] at h
  split at h
  · cases h; rfl
  · cases h

/-- The byte length of a text is the length of its bytes. -/
theorem length_encode (s : String) : (encode s).length = s.utf8ByteSize := by
  rfl

theorem decodeReplacing_encode (s : String) : decodeReplacing (encode s) = s := by
  rw [decodeReplacing, decode?_encode, Option.getD_some]

/-- Distinct texts have distinct bytes. -/
theorem encode_injective {s t : String} (h : encode s = encode t) : s = t := by
  have hs := decode?_encode s
  rw [h, decode?_encode] at hs
  exact (Option.some.inj hs).symm

/-! ## Order -/

theorem encode_eq_flatMap (s : String) : encode s = s.toList.flatMap String.utf8EncodeChar := by
  have h : s.toByteArray = s.toList.utf8Encode := by
    rw [← String.toByteArray_ofList, String.ofList_toList]
  rw [encode, h]
  simp [List.utf8Encode]

theorem ofNat_lt_ofNat_iff {a b : Nat} (ha : a < 256) (hb : b < 256) :
    UInt8.ofNat a < UInt8.ofNat b ↔ a < b := by
  rw [UInt8.lt_iff_toNat_lt, UInt8.toNat_ofNat', UInt8.toNat_ofNat']
  omega

theorem ofNat_eq_ofNat_iff {a b : Nat} (ha : a < 256) (hb : b < 256) :
    UInt8.ofNat a = UInt8.ofNat b ↔ a = b := by
  rw [← UInt8.toNat_inj, UInt8.toNat_ofNat', UInt8.toNat_ofNat']
  omega

/-- A smaller character has smaller bytes, whatever follows it. -/
theorem utf8EncodeChar_lt {c d : Char} (h : c < d) (x y : Bytes) :
    String.utf8EncodeChar c ++ x < String.utf8EncodeChar d ++ y := by
  have hc : c.val.toNat < d.val.toNat := h
  have hd : d.val.toNat < 0x110000 := by
    have := d.valid
    simp only [UInt32.isValidChar, Nat.isValidChar] at this
    omega
  unfold String.utf8EncodeChar
  generalize c.val.toNat = m at hc ⊢
  generalize d.val.toNat = n at hc hd ⊢
  -- the bytes are the digits in base 64, and the first one also grows with their number
  have digits : ∀ k : Nat, k / 4096 = k / 64 / 64 ∧ k / 262144 = k / 64 / 64 / 64 := by
    intro k
    omega
  dsimp only
  repeat' split
  all_goals
    simp (disch := omega) only [List.cons_append, List.nil_append, List.cons_lt_cons_iff,
      ofNat_lt_ofNat_iff, ofNat_eq_ofNat_iff, (digits _).1, (digits _).2]
    omega

theorem encode_lt_encode {s t : String} (h : s < t) : encode s < encode t := by
  rw [encode_eq_flatMap, encode_eq_flatMap]
  have h : List.Lex (· < ·) s.toList t.toList := String.lt_iff.1 h
  generalize s.toList = cs, t.toList = ds at h ⊢
  induction h with
  | @nil d ds =>
    have length : 0 < (String.utf8EncodeChar d).length := by
      rw [String.length_utf8EncodeChar]
      exact d.utf8Size_pos
    obtain ⟨b, bs, hd⟩ := List.exists_cons_of_length_pos length
    rw [List.flatMap_cons, hd]
    exact List.nil_lt_cons ..
  | @cons c cs ds _ ih =>
    rw [List.flatMap_cons, List.flatMap_cons]
    generalize String.utf8EncodeChar c = bs
    induction bs with
    | nil => exact ih
    | cons b bs ihb => exact List.cons_lt_cons_iff.2 (.inr ⟨rfl, ihb⟩)
  | rel h =>
    rw [List.flatMap_cons, List.flatMap_cons]
    exact utf8EncodeChar_lt h ..

end Utf8

end Rendezvous

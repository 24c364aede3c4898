import Rendezvous.Json.Document
import Rendezvous.Json.Record

/-!
# Texts are read as they were written

One byte of a text takes up to six bytes between quotes, and reading them gives the byte back:

    textBody acc (escapeByte b ++ s) = textBody (b :: acc) s           (textBody_escapeByte)
    readText fuel (quote t ++ s) = .ok (t, s)                          (readText_quote)

So a key between quotes is read as well, and so is the value behind its colon.
-/

namespace Rendezvous.Json

variable {acc s : Bytes} {fuel : Nat}

/-! ## Bytes -/

theorem textBody_quote : textBody acc (0x22 :: s) = .ok (acc.reverse, s) := by
  rw [textBody.eq_def]
  rfl

theorem textBody_plain {b : UInt8} (quote : b ≠ 0x22) (backslash : b ≠ 0x5c)
    (control : ¬ b < 0x20) : textBody acc (b :: s) = textBody (b :: acc) s := by
  rw [textBody.eq_def]
  simp only [if_neg quote, if_neg backslash, if_neg control]

theorem textBody_short {e c : UInt8} (letter : e ≠ 0x75) (h : shortEscape? e = some c) :
    textBody acc (0x5c :: e :: s) = textBody (c :: acc) s := by
  rw [textBody.eq_def]
  simp [if_neg letter, h]

/-- An escaped code unit that is no surrogate stands for its character. -/
theorem textBody_unit {a b c d : UInt8} {n : Nat} (h : codeUnit? a b c d = some n)
    (trailing : isTrailing n = false) (leading : isLeading n = false) :
    textBody acc (0x5c :: 0x75 :: a :: b :: c :: d :: s) =
      textBody ((String.utf8EncodeChar (Char.ofNat n)).reverse ++ acc) s := by
  rw [textBody.eq_def]
  simp [h, trailing, leading]

/-- The digits of a control character spell its code unit. -/
theorem codeUnit?_control (n : Fin 32) :
    let digits := Utf8.encode (Hex.encode [UInt8.ofNat n])
    digits = [digits[0]!, digits[1]!] ∧
      codeUnit? 0x30 0x30 digits[0]! digits[1]! = some n.val ∧ isTrailing n = false ∧
      isLeading n = false ∧ String.utf8EncodeChar (Char.ofNat n) = [UInt8.ofNat n] := by
  revert n
  decide +kernel

theorem textBody_control {b : UInt8} (h : b < 0x20) :
    textBody acc ([0x5c, 0x75, 0x30, 0x30] ++ Utf8.encode (Hex.encode [b]) ++ s) =
      textBody (b :: acc) s := by
  have hb : b.toNat < 32 := h
  obtain ⟨digits, unit, trailing, leading, char⟩ := codeUnit?_control ⟨b.toNat, hb⟩
  simp only [UInt8.ofNat_toNat] at digits unit trailing leading char
  rw [digits]
  show textBody acc (0x5c :: 0x75 :: 0x30 :: 0x30 :: _ :: _ :: s) = _
  rw [textBody_unit unit trailing leading, char]
  rfl

/-- A byte is read as it was written: the cases are those of `escapeByte`. -/
theorem textBody_escapeByte (b : UInt8) (acc s : Bytes) :
    textBody acc (escapeByte b ++ s) = textBody (b :: acc) s := by
  unfold escapeByte
  split
  · next h => subst h; exact textBody_short (by decide) rfl
  split
  · next h => subst h; exact textBody_short (by decide) rfl
  split
  · next h => subst h; exact textBody_short (by decide) rfl
  split
  · next h => subst h; exact textBody_short (by decide) rfl
  split
  · next h => subst h; exact textBody_short (by decide) rfl
  split
  · next h => subst h; exact textBody_short (by decide) rfl
  split
  · next h => subst h; exact textBody_short (by decide) rfl
  split
  · next h => exact textBody_control h
  · next quote backslash _ _ _ _ _ control => exact textBody_plain quote backslash control

theorem textBody_escaped (bs acc s : Bytes) :
    textBody acc (bs.flatMap escapeByte ++ 0x22 :: s) = .ok (acc.reverse ++ bs, s) := by
  induction bs generalizing acc with
  | nil =>
    show textBody acc (0x22 :: s) = _
    rw [textBody_quote, List.append_nil]
  | cons b bs ih =>
    rw [List.flatMap_cons, List.append_assoc, textBody_escapeByte, ih, List.reverse_cons,
      List.append_assoc]
    rfl

/-! ## Texts, keys and colons -/

theorem text_escaped (t : String) (s : Bytes) :
    text ((Utf8.encode t).flatMap escapeByte ++ 0x22 :: s) = .ok (t, s) := by
  unfold text
  rw [textBody_escaped]
  simp only [bind, Except.bind, List.reverse_nil, List.nil_append, Utf8.decode?_encode]

theorem quote_append (t : String) (s : Bytes) :
    quote t ++ s = 0x22 :: ((Utf8.encode t).flatMap escapeByte ++ 0x22 :: s) := by
  simp [quote]

theorem readText_quote (t : String) (s : Bytes) : readText fuel (quote t ++ s) = .ok (t, s) := by
  rw [quote_append]
  exact text_escaped t s

theorem readOptional_quote (t : String) (s : Bytes) :
    readOptional readText fuel (quote t ++ s) = .ok (some t, s) := by
  have h : readText fuel (quote t ++ s) = .ok (t, s) := readText_quote t s
  rw [quote_append] at h ⊢
  show (readText fuel _).bind _ = _
  rw [h]
  rfl

theorem nextKey_first (s : Bytes) :
    nextKey true (0x22 :: s) = (text s).map fun r => (some r.1, r.2) := by
  show (text s).bind _ = _
  cases text s <;> rfl

theorem nextKey_later (s : Bytes) :
    nextKey false (0x2c :: 0x22 :: s) = (text s).map fun r => (some r.1, r.2) := by
  show (text s).bind _ = _
  cases text s <;> rfl

theorem nextKey_end (first : Bool) (s : Bytes) : nextKey first (0x7d :: s) = .ok (none, s) := by
  cases first <;> rfl

theorem colon_cons (s : Bytes) : colon (0x3a :: s) = .ok s := by
  rfl

end Rendezvous.Json

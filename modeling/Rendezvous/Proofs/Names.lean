import Rendezvous.Proofs.Skipping

/-!
# What is read is spelled

Whatever stands between two quotes, if it is read, it is a spelling of the text that is read:

    TextContent w → text (w ++ 0x22 :: s) = .ok (t, rest) → SpellsChars t.toList w
                                                                      (spellsChars_of_text)

Reading makes bytes first, from bytes that stand for themselves and from escapes (`Makes`), and then
a text of the bytes. An escape makes a whole character, so the bytes of any other character stand
together (`Makes.split`).
-/

namespace Rendezvous.Json

variable {acc s v w bs out rest : Bytes} {c : Char} {t : String} {n : Nat}

/-! ## Code units -/

theorem HexDigit.lt {b : UInt8} (h : HexDigit n b) : n < 16 := by
  cases h <;> omega

theorem UnitEscape.lt (h : UnitEscape n v) : n < 0x10000 := by
  obtain ⟨first, second, third, fourth⟩ := h
  have := first.lt
  have := second.lt
  have := third.lt
  have := fourth.lt
  omega

theorem toNat_ofNat (valid : n.isValidChar) : (Char.ofNat n).toNat = n := by
  unfold Char.ofNat
  rw [dif_pos valid]
  rfl

/-- The escape of a code unit that is no half of a pair spells its character. -/
theorem spellsChar_unit (h : UnitEscape n v) (trailing : isTrailing n = false)
    (leading : isLeading n = false) : SpellsChar (Char.ofNat n) v := by
  have bound := h.lt
  simp only [isLeading, isTrailing, Bool.and_eq_false_iff, decide_eq_false_iff_not]
    at trailing leading
  have valid : n.isValidChar := by
    unfold Nat.isValidChar
    omega
  exact .unit (by rwa [toNat_ofNat valid])

/-- Two halves of a pair spell its character. -/
theorem spellsChar_pair {m : Nat} (h : UnitEscape m v) (leading : isLeading m = true)
    (h' : UnitEscape n w) (trailing : isTrailing n = true) :
    SpellsChar (pairCharacter m n) (v ++ w) := by
  simp only [isLeading, isTrailing, Bool.and_eq_true, decide_eq_true_eq] at leading trailing
  have valid : ((m - 0xd800) * 0x400 + (n - 0xdc00) + 0x10000).isValidChar := by
    unfold Nat.isValidChar
    omega
  have code : (pairCharacter m n).toNat = (m - 0xd800) * 0x400 + (n - 0xdc00) + 0x10000 :=
    toNat_ofNat valid
  have first : 0xd800 + ((pairCharacter m n).toNat - 0x10000) / 0x400 = m := by omega
  have second : 0xdc00 + ((pairCharacter m n).toNat - 0x10000) % 0x400 = n := by omega
  exact .pair (by omega) (by rwa [first]) (by rwa [second])

/-! ## Bytes that are made -/

/-- What reading makes of what stands between two quotes. -/
inductive Makes : Bytes → Bytes → Prop
  | nil : Makes [] []
  | plain {b : UInt8} {w bs : Bytes} (quote : b ≠ 0x22) (backslash : b ≠ 0x5c)
      (control : ¬ b < 0x20) (more : Makes w bs) : Makes (b :: w) (b :: bs)
  | char {c : Char} {v w bs : Bytes} (one : SpellsChar c v) (more : Makes w bs) :
      Makes (v ++ w) (String.utf8EncodeChar c ++ bs)

/-- Reading up to the closing quote makes bytes. -/
def Readable (w : Bytes) : Prop :=
  ∀ ⦃acc s out rest⦄, textBody acc (w ++ 0x22 :: s) = .ok (out, rest) →
    ∃ bs, Makes w bs ∧ out = acc.reverse ++ bs

theorem Readable.char (one : SpellsChar c v) (more : Readable w) : Readable (v ++ w) := by
  intro acc s out rest read
  rw [List.append_assoc, textBody_spellsChar one] at read
  obtain ⟨bs, makes, made⟩ := more read
  refine ⟨_, .char one makes, ?_⟩
  rw [made, List.reverse_append, List.reverse_reverse, List.append_assoc]

theorem textBody_half {a b c d : UInt8} (h : codeUnit? a b c d = some n)
    (trailing : isTrailing n = true) :
    textBody acc (0x5c :: 0x75 :: a :: b :: c :: d :: s) = .error .malformed := by
  rw [textBody.eq_def]
  simp [h, trailing]

/-- The first half of a pair is read only with its other half. -/
theorem exists_trailing {a b c d : UInt8} (h : codeUnit? a b c d = some n)
    (leading : isLeading n = true)
    (read : textBody acc (0x5c :: 0x75 :: a :: b :: c :: d :: s) = .ok (out, rest)) :
    ∃ a b c d s' m, s = 0x5c :: 0x75 :: a :: b :: c :: d :: s' ∧ codeUnit? a b c d = some m ∧
      isTrailing m = true := by
  rw [textBody.eq_def] at read
  simp only [h, isTrailing_of_isLeading leading, leading, if_true, Bool.false_eq_true,
    if_false] at read
  rw [if_neg (by decide)] at read
  -- every other way to go on is an error
  repeat' split at read
  all_goals try cases read
  next backslash _ _ letter _ _ _ _ _ _ _ _ unit trailing =>
    subst backslash letter
    exact ⟨_, _, _, _, _, _, rfl, unit, trailing⟩

/-- Behind the first half of a pair nothing is read but its other half. -/
theorem readable_lead {m : Nat} (lead : UnitEscape m v) (leading : isLeading m = true)
    (other : ∀ a b c d s s' n, w ++ 0x22 :: s = 0x5c :: 0x75 :: a :: b :: c :: d :: s' →
      codeUnit? a b c d = some n → isTrailing n = false) : Readable (v ++ w) := by
  intro acc s out rest read
  obtain ⟨a, b, c, d, rfl, unit⟩ := codeUnit?_of_unitEscape lead
  rw [List.append_assoc] at read
  obtain ⟨a, b, c, d, s', n, same, second, trailing⟩ := exists_trailing unit leading read
  rw [other a b c d s s' n same second] at trailing
  cases trailing

/-- Whatever may stand between quotes makes bytes if it is read, and so it does behind the first
half of a pair. -/
theorem readable_of_textContent (h : TextContent w) :
    Readable w ∧ ∀ ⦃m v⦄, UnitEscape m v → isLeading m = true → Readable (v ++ w) := by
  -- the first half of a pair is taken together with the escape behind it, hence the second part
  induction h with
  | nil =>
    refine ⟨fun acc s out rest read => ?_, fun m v lead leading => readable_lead lead leading ?_⟩
    · rw [List.nil_append, textBody_quote] at read
      cases read
      exact ⟨[], .nil, (List.append_nil _).symm⟩
    · intro a b c d s s' n same
      cases same
  | plain quote backslash control _ ih =>
    refine ⟨fun acc s out rest read => ?_, fun m v lead leading => readable_lead lead leading ?_⟩
    · rw [List.cons_append, textBody_plain quote backslash control] at read
      obtain ⟨bs, makes, made⟩ := ih.1 read
      refine ⟨_, .plain quote backslash control makes, ?_⟩
      rw [made, List.reverse_cons, List.append_assoc]
      rfl
    · intro a b c d s s' n same
      exact absurd (List.cons.inj same).1 backslash
  | letter known _ ih =>
    refine ⟨.char (.letter known) ih.1, fun m v lead leading => readable_lead lead leading ?_⟩
    intro a b c d s s' n same
    have all : ∀ l ∈ letters, l.1 ≠ 0x75 := by decide
    exact absurd (List.cons.inj (List.cons.inj same).2).1 (all _ known)
  | @unit n v w escape _ ih =>
    obtain ⟨a, b, c, d, bytes, unit⟩ := codeUnit?_of_unitEscape escape
    cases trailing : isTrailing n with
    | false =>
      refine ⟨?_, fun m v' lead leading => readable_lead lead leading ?_⟩
      · cases leading : isLeading n with
        | false => exact .char (spellsChar_unit escape trailing leading) ih.1
        | true => exact ih.2 escape leading
      · intro a' b' c' d' s s' k same second
        rw [bytes] at same
        cases same
        rw [unit] at second
        cases second
        exact trailing
    | true =>
      refine ⟨fun acc s out rest read => ?_, fun m v' lead leading => ?_⟩
      · rw [bytes, List.append_assoc] at read
        exact nomatch (textBody_half unit trailing).symm.trans read
      · rw [← List.append_assoc]
        exact .char (spellsChar_pair lead leading escape trailing) ih.1

/-! ## Characters that are made -/

/-- A byte behind the first one of a character. -/
def Continues (b : UInt8) : Prop := 0x80 ≤ b ∧ b < 0xc0

theorem continues_ofNat_iff (h : n < 256) :
    Continues (UInt8.ofNat n) ↔ 0x80 ≤ n ∧ n < 0xc0 := by
  unfold Continues
  rw [UInt8.le_iff_toNat_le, UInt8.lt_iff_toNat_lt, UInt8.toNat_ofNat', Nat.mod_eq_of_lt h]
  rfl

/-- Only the first byte of a character does not continue it. -/
theorem utf8EncodeChar_cons (c : Char) : ∃ b bs, String.utf8EncodeChar c = b :: bs ∧
    ¬ Continues b ∧ ∀ x ∈ bs, Continues x := by
  have valid := c.valid
  simp only [UInt32.isValidChar, Nat.isValidChar] at valid
  unfold String.utf8EncodeChar
  generalize c.val.toNat = n at valid ⊢
  have behind {n : Nat} (low : 0x80 ≤ n) (high : n < 0xc0) : Continues (UInt8.ofNat n) :=
    (continues_ofNat_iff (by omega)).2 ⟨low, high⟩
  dsimp only
  repeat' split
  all_goals
    refine ⟨_, _, rfl, ?_, ?_⟩
    · rw [continues_ofNat_iff (by omega)]
      omega
    · repeat refine List.forall_mem_cons.2 ⟨behind (by omega) (by omega), ?_⟩
      exact List.forall_mem_nil _

theorem utf8EncodeChar_append_inj {d : Char} {x y : Bytes}
    (h : String.utf8EncodeChar c ++ x = String.utf8EncodeChar d ++ y) : c = d := by
  rcases Nat.lt_trichotomy c.toNat d.toNat with less | same | more
  · have less := Utf8.utf8EncodeChar_lt less x y
    rw [h] at less
    exact absurd less (List.lt_irrefl _)
  · exact Char.toNat_inj.1 same
  · have more := Utf8.utf8EncodeChar_lt more y x
    rw [h] at more
    exact absurd more (List.lt_irrefl _)

/-- Bytes that continue a character are made by themselves. -/
theorem Makes.split {bs cs : Bytes} (h : Makes w (bs ++ cs)) (continues : ∀ b ∈ bs, Continues b) :
    ∃ w', w = bs ++ w' ∧ Makes w' cs := by
  induction bs generalizing w with
  | nil => exact ⟨w, rfl, h⟩
  | cons b bs ih =>
    rw [List.forall_mem_cons] at continues
    generalize all : b :: bs ++ cs = made at h
    cases h with
    | nil => cases all
    | plain _ _ _ more =>
      cases all
      obtain ⟨w', rfl, rest⟩ := ih more continues.2
      exact ⟨w', rfl, rest⟩
    | @char c =>
      obtain ⟨b', bs', bytes, leads, -⟩ := utf8EncodeChar_cons c
      rw [bytes] at all
      exact absurd ((List.cons.inj all).1 ▸ continues.1) leads

/-- A character whose first byte stands for itself does so, too. -/
theorem spellsChar_of_head {b : UInt8} (h : String.utf8EncodeChar c = b :: bs) (quote : b ≠ 0x22)
    (backslash : b ≠ 0x5c) (control : ¬ b < 0x20) : SpellsChar c (b :: bs) := by
  rw [← h]
  refine .plain ?_ ?_ ?_
  · rw [← Nat.not_lt]
    intro low
    have ascii : String.utf8EncodeChar c = [UInt8.ofNat c.toNat] := by
      unfold String.utf8EncodeChar
      rw [show c.val.toNat = c.toNat from rfl]
      dsimp only
      rw [if_pos (by omega)]
    rw [ascii] at h
    apply control
    rw [← (List.cons.inj h).1, UInt8.lt_iff_toNat_lt, UInt8.toNat_ofNat']
    exact Nat.lt_of_le_of_lt (Nat.mod_le ..) low
  · rintro rfl
    exact quote (List.cons.inj h).1.symm
  · rintro rfl
    exact backslash (List.cons.inj h).1.symm

theorem spellsChars_of_makes {cs : List Char} (h : Makes w (cs.flatMap String.utf8EncodeChar)) :
    SpellsChars cs w := by
  induction cs generalizing w with
  | nil =>
    generalize all : [].flatMap String.utf8EncodeChar = made at h
    cases h with
    | nil => exact .nil
    | plain => cases all
    | @char c =>
      obtain ⟨b, bs, bytes, -⟩ := utf8EncodeChar_cons c
      rw [bytes] at all
      cases all
  | cons c cs ih =>
    obtain ⟨b, bs, bytes, -, continues⟩ := utf8EncodeChar_cons c
    generalize all : (c :: cs).flatMap String.utf8EncodeChar = made at h
    rw [List.flatMap_cons] at all
    cases h with
    | nil =>
      rw [bytes] at all
      cases all
    | plain quote backslash control more =>
      rw [bytes] at all
      cases all
      obtain ⟨w', rfl, rest⟩ := more.split continues
      exact .cons (spellsChar_of_head bytes quote backslash control) (ih rest)
    | char one more =>
      cases utf8EncodeChar_append_inj all
      rw [← List.append_cancel_left all] at more
      exact .cons one (ih more)

/-- A text that is read from between two quotes is spelled there. -/
theorem spellsChars_of_text (content : TextContent w)
    (read : text (w ++ 0x22 :: s) = .ok (t, rest)) : SpellsChars t.toList w := by
  unfold text at read
  cases body : textBody [] (w ++ 0x22 :: s) with
  | error =>
    rw [body] at read
    cases read
  | ok made =>
    obtain ⟨out, rest'⟩ := made
    simp only [body, bind, Except.bind] at read
    split at read
    · next t' decoded =>
      cases read
      obtain ⟨bs, makes, rfl⟩ := (readable_of_textContent content).1 body
      rw [← Utf8.encode_of_decode? decoded, Utf8.encode_eq_flatMap] at makes
      exact spellsChars_of_makes makes
    · cases read

end Rendezvous.Json

import Rendezvous.Proofs.Layouts

/-!
# Texts in any spelling

A character between quotes stands for itself, or it is escaped: by a letter of its own, by the four
hexadecimal digits of its code unit, or by the digits of both halves of a surrogate pair
(`SpellsChar`). However a text is spelled, it is read, with any blanks in front of it:

    SpellsText t v → Takes readText v t                                            (takes_text)

So is a text in place of a value that may be missing, and `null` for one that is missing.
-/

namespace Rendezvous.Json

variable {α : Type} {acc s v w : Bytes} {c : Char} {t : String}

/-! ## Spellings -/

/-- A hexadecimal digit, in either case. -/
inductive HexDigit : Nat → UInt8 → Prop
  | decimal {n : Nat} (small : n < 10) : HexDigit n (UInt8.ofNat (0x30 + n))
  | upper {n : Nat} (small : n < 6) : HexDigit (n + 10) (UInt8.ofNat (0x41 + n))
  | lower {n : Nat} (small : n < 6) : HexDigit (n + 10) (UInt8.ofNat (0x61 + n))

/-- The escape of a code unit: a backslash, `u` and four digits. -/
inductive UnitEscape : Nat → Bytes → Prop
  | mk {a b c d : Nat} {w x y z : UInt8} (first : HexDigit a w) (second : HexDigit b x)
      (third : HexDigit c y) (fourth : HexDigit d z) :
      UnitEscape (((a * 16 + b) * 16 + c) * 16 + d) [0x5c, 0x75, w, x, y, z]

/-- The letters that escape a character behind a backslash. -/
def letters : List (UInt8 × Char) :=
  [(0x22, '"'), (0x5c, '\\'), (0x2f, '/'), (0x62, '\x08'), (0x66, '\x0c'), (0x6e, '\n'),
   (0x72, '\r'), (0x74, '\t')]

/-- How a character may stand between quotes. -/
inductive SpellsChar (c : Char) : Bytes → Prop
  | plain (control : 0x20 ≤ c.toNat) (quote : c ≠ '"') (backslash : c ≠ '\\') :
      SpellsChar c (String.utf8EncodeChar c)
  | letter {e : UInt8} (known : (e, c) ∈ letters) : SpellsChar c [0x5c, e]
  | unit {v : Bytes} (escape : UnitEscape c.toNat v) : SpellsChar c v
  | pair {v w : Bytes} (high : 0x10000 ≤ c.toNat)
      (leading : UnitEscape (0xd800 + (c.toNat - 0x10000) / 0x400) v)
      (trailing : UnitEscape (0xdc00 + (c.toNat - 0x10000) % 0x400) w) : SpellsChar c (v ++ w)

/-- How characters may stand one after the other. -/
inductive SpellsChars : List Char → Bytes → Prop
  | nil : SpellsChars [] []
  | cons {c : Char} {cs : List Char} {v w : Bytes} (one : SpellsChar c v)
      (more : SpellsChars cs w) : SpellsChars (c :: cs) (v ++ w)

/-- How a text may be written: some spelling of its characters between quotes. -/
inductive SpellsText (t : String) : Bytes → Prop
  | mk {w : Bytes} (content : SpellsChars t.toList w) : SpellsText t (0x22 :: (w ++ [0x22]))

/-! ## Characters -/

theorem hexValue?_of_hexDigit {n : Nat} {b : UInt8} (h : HexDigit n b) : hexValue? b = some n := by
  cases h with
  | decimal small =>
    have all : ∀ m : Fin 10, hexValue? (UInt8.ofNat (0x30 + m.val)) = some m.val := by decide
    exact all ⟨_, small⟩
  | upper small =>
    have all : ∀ m : Fin 6, hexValue? (UInt8.ofNat (0x41 + m.val)) = some (m.val + 10) := by decide
    exact all ⟨_, small⟩
  | lower small =>
    have all : ∀ m : Fin 6, hexValue? (UInt8.ofNat (0x61 + m.val)) = some (m.val + 10) := by decide
    exact all ⟨_, small⟩

theorem codeUnit?_of_unitEscape {n : Nat} (h : UnitEscape n v) :
    ∃ w x y z, v = [0x5c, 0x75, w, x, y, z] ∧ codeUnit? w x y z = some n := by
  cases h with
  | mk first second third fourth =>
    refine ⟨_, _, _, _, rfl, ?_⟩
    unfold codeUnit?
    rw [hexValue?_of_hexDigit first, hexValue?_of_hexDigit second, hexValue?_of_hexDigit third,
      hexValue?_of_hexDigit fourth]
    rfl

/-- Bytes that stand for themselves between quotes. -/
theorem textBody_plains (plain : ∀ b ∈ v, b ≠ 0x22 ∧ b ≠ 0x5c ∧ ¬ b < 0x20) :
    textBody acc (v ++ s) = textBody (v.reverse ++ acc) s := by
  induction v generalizing acc with
  | nil => rfl
  | cons b v ih =>
    rw [List.forall_mem_cons] at plain
    obtain ⟨⟨quote, backslash, control⟩, plain⟩ := plain
    rw [List.cons_append, textBody_plain quote backslash control, ih plain, List.reverse_cons,
      List.append_assoc]
    rfl

/-- The bytes of a character are those of its own code or are no ASCII at all. -/
theorem plain_of_mem_utf8EncodeChar (control : 0x20 ≤ c.toNat) (quote : c ≠ '"')
    (backslash : c ≠ '\\') {b : UInt8} (h : b ∈ String.utf8EncodeChar c) :
    b ≠ 0x22 ∧ b ≠ 0x5c ∧ ¬ b < 0x20 := by
  have codes : c.toNat ≠ 0x22 ∧ c.toNat ≠ 0x5c := by
    constructor
    · intro same
      exact quote (Char.toNat_inj.1 same)
    · intro same
      exact backslash (Char.toNat_inj.1 same)
  have far : ∀ n : Fin 256, 0x20 ≤ n.val → n.val ≠ 0x22 → n.val ≠ 0x5c →
      UInt8.ofNat n ≠ 0x22 ∧ UInt8.ofNat n ≠ 0x5c ∧ ¬ UInt8.ofNat n < 0x20 := by decide +kernel
  -- every byte of a longer character is 0x80 or more
  obtain ⟨n, rfl, low, quote, backslash⟩ : ∃ n : Fin 256,
      b = UInt8.ofNat n ∧ 0x20 ≤ n.val ∧ n.val ≠ 0x22 ∧ n.val ≠ 0x5c := by
    unfold String.utf8EncodeChar at h
    rw [show c.val.toNat = c.toNat from rfl] at h
    generalize c.toNat = n at h codes control
    dsimp only at h
    have longer {m : Nat} (lead : m < 256) (ascii : 0x80 ≤ m) : ∃ n : Fin 256,
        UInt8.ofNat m = UInt8.ofNat n ∧ 0x20 ≤ n.val ∧ n.val ≠ 0x22 ∧ n.val ≠ 0x5c :=
      ⟨⟨m, lead⟩, rfl, by dsimp only; omega, by dsimp only; omega, by dsimp only; omega⟩
    split at h
    · rw [List.mem_singleton] at h
      exact ⟨⟨n, by omega⟩, h, control, codes⟩
    · repeat' split at h
      all_goals
        simp only [List.mem_cons, List.not_mem_nil, or_false] at h
        rcases h with rfl | rfl | rfl | rfl <;> exact longer (by omega) (by omega)
  exact far n low quote backslash

/-- Whether a character may stand for itself between quotes. -/
def isPlain (c : Char) : Bool := Nat.ble 0x20 c.toNat && c != '"' && c != '\\'

/-- A text of plain characters is spelled as it is. -/
theorem spellsChars_encode (plain : t.toList.all isPlain = true) :
    SpellsChars t.toList (Utf8.encode t) := by
  rw [Utf8.encode_eq_flatMap]
  generalize t.toList = cs at plain ⊢
  induction cs with
  | nil => exact .nil
  | cons c cs ih =>
    rw [List.all_cons, Bool.and_eq_true] at plain
    obtain ⟨here, plain⟩ := plain
    simp only [isPlain, Bool.and_eq_true, Nat.ble_eq, bne_iff_ne] at here
    obtain ⟨⟨control, quote⟩, backslash⟩ := here
    exact .cons (.plain control quote backslash) (ih plain)

theorem spellsText_encode (plain : t.toList.all isPlain = true) :
    SpellsText t (0x22 :: (Utf8.encode t ++ [0x22])) :=
  .mk (spellsChars_encode plain)

theorem isTrailing_of_isLeading {n : Nat} (leading : isLeading n = true) :
    isTrailing n = false := by
  simp only [isLeading, isTrailing, Bool.and_eq_true, Bool.and_eq_false_iff, decide_eq_true_eq,
    decide_eq_false_iff_not] at leading ⊢
  omega

theorem textBody_pair {a b c d a' b' c' d' : UInt8} {m n : Nat} (first : codeUnit? a b c d = some m)
    (leading : isLeading m = true) (second : codeUnit? a' b' c' d' = some n)
    (trailing : isTrailing n = true) :
    textBody acc
        (0x5c :: 0x75 :: a :: b :: c :: d :: 0x5c :: 0x75 :: a' :: b' :: c' :: d' :: s) =
      textBody ((String.utf8EncodeChar (pairCharacter m n)).reverse ++ acc) s := by
  rw [textBody.eq_def]
  simp [first, leading, second, trailing, isTrailing_of_isLeading leading]

/-- No character is half of a surrogate pair. -/
theorem not_surrogate (c : Char) : isTrailing c.toNat = false ∧ isLeading c.toNat = false := by
  have valid := c.valid
  simp only [UInt32.isValidChar, Nat.isValidChar] at valid
  rw [show c.toNat = c.val.toNat from rfl]
  simp only [isLeading, isTrailing, Bool.and_eq_false_iff, decide_eq_false_iff_not]
  omega

/-- The two halves of a character beyond the first 0x10000 make it up again. -/
theorem halves_of_char (high : 0x10000 ≤ c.toNat) :
    isLeading (0xd800 + (c.toNat - 0x10000) / 0x400) = true ∧
      isTrailing (0xdc00 + (c.toNat - 0x10000) % 0x400) = true ∧
      pairCharacter (0xd800 + (c.toNat - 0x10000) / 0x400)
        (0xdc00 + (c.toNat - 0x10000) % 0x400) = c := by
  have valid := c.valid
  simp only [UInt32.isValidChar, Nat.isValidChar] at valid
  have bound : c.toNat < 0x110000 := by
    show c.val.toNat < 0x110000
    omega
  simp only [isLeading, isTrailing, Bool.and_eq_true, decide_eq_true_eq]
  refine ⟨by omega, by omega, ?_⟩
  have whole : (0xd800 + (c.toNat - 0x10000) / 0x400 - 0xd800) * 0x400 +
      (0xdc00 + (c.toNat - 0x10000) % 0x400 - 0xdc00) + 0x10000 = c.toNat := by omega
  unfold pairCharacter
  rw [whole, Char.ofNat_toNat]

/-- A character is read as it is spelled. -/
theorem textBody_spellsChar (h : SpellsChar c v) (acc s : Bytes) :
    textBody acc (v ++ s) = textBody ((String.utf8EncodeChar c).reverse ++ acc) s := by
  cases h with
  | plain control quote backslash =>
    exact textBody_plains fun b => plain_of_mem_utf8EncodeChar control quote backslash
  | letter known =>
    have all : ∀ l ∈ letters, l.1 ≠ 0x75 ∧
        ∃ b, shortEscape? l.1 = some b ∧ String.utf8EncodeChar l.2 = [b] := by decide
    obtain ⟨plain, b, escape, bytes⟩ := all _ known
    rw [bytes]
    exact textBody_short plain escape
  | unit escape =>
    obtain ⟨x, y, z, w, rfl, unit⟩ := codeUnit?_of_unitEscape escape
    obtain ⟨trailing, leading⟩ := not_surrogate c
    show textBody acc (0x5c :: 0x75 :: x :: y :: z :: w :: s) = _
    rw [textBody_unit unit trailing leading, Char.ofNat_toNat]
  | pair high leading trailing =>
    obtain ⟨x, y, z, w, rfl, first⟩ := codeUnit?_of_unitEscape leading
    obtain ⟨x', y', z', w', rfl, second⟩ := codeUnit?_of_unitEscape trailing
    obtain ⟨lead, trail, pair⟩ := halves_of_char high
    show textBody acc
      (0x5c :: 0x75 :: x :: y :: z :: w :: 0x5c :: 0x75 :: x' :: y' :: z' :: w' :: s) = _
    rw [textBody_pair first lead second trail, pair]

/-- Characters are read one after the other, up to the closing quote. -/
theorem textBody_spellsChars {cs : List Char} (h : SpellsChars cs w) (acc s : Bytes) :
    textBody acc (w ++ 0x22 :: s) = .ok (acc.reverse ++ cs.flatMap String.utf8EncodeChar, s) := by
  induction h generalizing acc with
  | nil => rw [List.nil_append, textBody_quote, List.flatMap_nil, List.append_nil]
  | cons one _ ih =>
    rw [List.append_assoc, textBody_spellsChar one, ih, List.reverse_append, List.reverse_reverse,
      List.flatMap_cons, List.append_assoc]

theorem text_spellsChars (h : SpellsChars t.toList w) (s : Bytes) :
    text (w ++ 0x22 :: s) = .ok (t, s) := by
  unfold text
  rw [textBody_spellsChars h, List.reverse_nil, List.nil_append, ← Utf8.encode_eq_flatMap]
  simp only [bind, Except.bind, Utf8.decode?_encode]

/-! ## What readers take for a value -/

/-- A reader takes bytes for a value, whatever blanks stand in front of them and whatever stands
behind them. -/
def Takes (read : Reader α) (v : Bytes) (a : α) : Prop :=
  ∀ ⦃whole pad s⦄, v.length ≤ whole → Blank pad → read whole (pad ++ (v ++ s)) = .ok (a, s)

theorem takes_text (h : SpellsText t v) : Takes readText v t := by
  intro whole pad s _ hp
  obtain ⟨content⟩ := h
  unfold readText
  rw [skipBlanks_append hp]
  show text (_ ++ [0x22] ++ s) = _
  rw [List.append_assoc]
  exact text_spellsChars content s

theorem takes_some (h : SpellsText t v) : Takes (readOptional readText) v (some t) := by
  intro whole pad s fits hp
  have bare : readText whole (v ++ s) = .ok (t, s) := takes_text h fits blank_nil
  obtain ⟨content⟩ := h
  unfold readOptional
  rw [skipBlanks_append hp]
  show (readText whole (0x22 :: (_ ++ [0x22]) ++ s)).bind _ = _
  rw [bare]
  rfl

theorem takes_null : Takes (readOptional readText) [0x6e, 0x75, 0x6c, 0x6c] none := by
  intro whole pad s _ hp
  unfold readOptional
  rw [skipBlanks_append hp]
  rfl

theorem takes_flag (b : Bool) : Takes readFlag (flagBytes b) b := by
  intro whole pad s _ hp
  unfold readFlag
  rw [skipBlanks_append hp]
  cases b <;> rfl

end Rendezvous.Json

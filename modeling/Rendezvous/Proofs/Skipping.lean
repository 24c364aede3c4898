import Rendezvous.Proofs.Spellings

/-!
# Values that are passed over

`WellFormed` is the grammar of values: `null`, flags, numbers, texts, and lists and objects with
blanks around everything in them, nested to any depth. A value of it is passed over exactly, if no
number can go on behind it:

    WellFormed .value v → Follows s → skipValue fuel (v ++ s) = .ok s      (skipValue_wellFormed)

Brackets that are open are kept on a list, so what is shown of a value by induction is that passing
over it comes to closing whatever is open around it (`Skips`).
-/

namespace Rendezvous.Json

variable {s v w pad lead : Bytes} {b c : UInt8} {bracket : Bracket} {brackets : List Bracket}
  {fresh : Bool} {fuel n : Nat}

/-! ## The grammar of values -/

/-- What stands between the quotes of a text. An escape may be half of a surrogate pair, which
spells no character. -/
inductive TextContent : Bytes → Prop
  | nil : TextContent []
  | plain {b : UInt8} {w : Bytes} (quote : b ≠ 0x22) (backslash : b ≠ 0x5c) (control : ¬ b < 0x20)
      (more : TextContent w) : TextContent (b :: w)
  | letter {e : UInt8} {c : Char} {w : Bytes} (known : (e, c) ∈ letters) (more : TextContent w) :
      TextContent (0x5c :: e :: w)
  | unit {n : Nat} {v w : Bytes} (escape : UnitEscape n v) (more : TextContent w) :
      TextContent (v ++ w)

structure Digits (ds : Bytes) : Prop where
  nonempty : ds ≠ []
  digits : ∀ b ∈ ds, isDigit b = true

inductive Fraction : Bytes → Prop
  | absent : Fraction []
  | given {ds : Bytes} (digits : Digits ds) : Fraction (0x2e :: ds)

inductive Exponent : Bytes → Prop
  | absent : Exponent []
  | given {mark : UInt8} {sign ds : Bytes} (marks : isExponentMark mark = true)
      (signed : sign = [] ∨ sign = [0x2b] ∨ sign = [0x2d]) (digits : Digits ds) :
      Exponent (mark :: (sign ++ ds))

/-- A number of any size: only zero begins with a zero. -/
inductive NumberText : Bytes → Prop
  | mk {sign int fraction exponent : Bytes} (signed : sign = [] ∨ sign = [0x2d])
      (digits : Digits int) (plain : int.head? = some 0x30 → int = [0x30])
      (behind : Fraction fraction) (scaled : Exponent exponent) :
      NumberText (sign ++ (int ++ (fraction ++ exponent)))

def Bracket.opening : Bracket → UInt8
  | .square => 0x5b
  | .curly => 0x7b

def Bracket.closing : Bracket → UInt8
  | .square => 0x5d
  | .curly => 0x7d

theorem Bracket.follows_closing (bracket : Bracket) (s : Bytes) :
    Follows (bracket.closing :: s) := by
  cases bracket
  · exact follows_bracket s
  · exact follows_brace s

/-- What stands in front of a value in a list or in an object: blanks, or a key and a colon. -/
inductive Lead : Bracket → Bytes → Prop
  | element {pad : Bytes} (blank : Blank pad) : Lead .square pad
  | key {pad content gap gap' : Bytes} (blank : Blank pad) (text : TextContent content)
      (before : Blank gap) (behind : Blank gap') :
      Lead .curly (pad ++ 0x22 :: (content ++ 0x22 :: (gap ++ 0x3a :: gap')))

/-- What is written: a value, or what stands between two brackets. -/
inductive Shape where
  | value
  | inside (bracket : Bracket)

/-- The grammar of values. -/
inductive WellFormed : Shape → Bytes → Prop
  | null : WellFormed .value [0x6e, 0x75, 0x6c, 0x6c]
  | flag (b : Bool) : WellFormed .value (flagBytes b)
  | number {v : Bytes} (number : NumberText v) : WellFormed .value v
  | text {w : Bytes} (content : TextContent w) : WellFormed .value (0x22 :: (w ++ [0x22]))
  | empty (bracket : Bracket) {pad : Bytes} (blank : Blank pad) :
      WellFormed .value (bracket.opening :: (pad ++ [bracket.closing]))
  | full {bracket : Bracket} {w : Bytes} (inside : WellFormed (.inside bracket) w) :
      WellFormed .value (bracket.opening :: (w ++ [bracket.closing]))
  | last {bracket : Bracket} {lead v pad : Bytes} (front : Lead bracket lead)
      (one : WellFormed .value v) (blank : Blank pad) :
      WellFormed (.inside bracket) (lead ++ (v ++ pad))
  | more {bracket : Bracket} {lead v pad w : Bytes} (front : Lead bracket lead)
      (one : WellFormed .value v) (blank : Blank pad) (others : WellFormed (.inside bracket) w) :
      WellFormed (.inside bracket) (lead ++ (v ++ (pad ++ 0x2c :: w)))

/-! ## Texts -/

theorem skipText_content (h : TextContent w) (s : Bytes) : skipText (w ++ 0x22 :: s) = .ok s := by
  induction h with
  | nil =>
    rw [List.nil_append, skipText.eq_def]
    rfl
  | plain quote backslash control _ ih =>
    rw [List.cons_append, skipText.eq_def]
    simp only [if_neg quote, if_neg backslash, if_neg control]
    exact ih
  | letter known _ ih =>
    have all : ∀ l ∈ letters, l.1 ≠ 0x75 ∧ (shortEscape? l.1).isSome = true := by decide
    obtain ⟨plain, escape⟩ := all _ known
    obtain ⟨c, escape⟩ := Option.isSome_iff_exists.1 escape
    rw [List.cons_append, List.cons_append, skipText.eq_def]
    simp [if_neg plain, escape, ih]
  | unit escape _ ih =>
    obtain ⟨x, y, z, w, rfl, unit⟩ := codeUnit?_of_unitEscape escape
    rw [List.append_assoc]
    show skipText (0x5c :: 0x75 :: x :: y :: z :: w :: _) = _
    rw [skipText.eq_def]
    simp [unit, ih]

theorem textContent_plains (plain : ∀ b ∈ v, b ≠ 0x22 ∧ b ≠ 0x5c ∧ ¬ b < 0x20)
    (more : TextContent w) : TextContent (v ++ w) := by
  induction v with
  | nil => exact more
  | cons b v ih =>
    rw [List.forall_mem_cons] at plain
    obtain ⟨⟨quote, backslash, control⟩, plain⟩ := plain
    exact .plain quote backslash control (ih plain)

/-- However characters are spelled, they may stand between quotes. -/
theorem SpellsChars.textContent {cs : List Char} (h : SpellsChars cs w) : TextContent w := by
  induction h with
  | nil => exact .nil
  | cons one _ ih =>
    cases one with
    | plain control quote backslash =>
      exact textContent_plains
        (fun b => plain_of_mem_utf8EncodeChar control quote backslash) ih
    | letter known => exact .letter known ih
    | unit escape => exact .unit escape ih
    | pair _ leading trailing =>
      rw [List.append_assoc]
      exact .unit leading (.unit trailing ih)

/-! ## Numbers -/

theorem Digits.head (h : Digits v) : ∃ b ds, v = b :: ds ∧ isDigit b = true := by
  obtain ⟨b, ds, hd⟩ := List.exists_cons_of_ne_nil h.nonempty
  exact ⟨b, ds, hd, h.digits b (hd ▸ List.mem_cons_self ..)⟩

theorem Digits.isEmpty (h : Digits v) : v.isEmpty = false := by
  obtain ⟨b, ds, rfl, -⟩ := h.head
  rfl

theorem of_isExponentMark (h : isExponentMark b = true) : isDigit b = false ∧ b ≠ 0x2e := by
  simp only [isExponentMark, Bool.or_eq_true, beq_iff_eq] at h
  rcases h with rfl | rfl <;> decide

theorem skipExponent_digits {sign ds : Bytes} (signed : sign = [] ∨ sign = [0x2b] ∨ sign = [0x2d])
    (digits : Digits ds) (hs : Follows s) : skipExponent (sign ++ (ds ++ s)) = .ok s := by
  obtain ⟨taken, left⟩ := span_isDigit digits.digits fun b h => (hs b h).1
  have unsigned :
      (if (sign ++ (ds ++ s)).head? == some 0x2d || (sign ++ (ds ++ s)).head? == some 0x2b
        then (sign ++ (ds ++ s)).tail else sign ++ (ds ++ s)) = ds ++ s := by
    rcases signed with rfl | rfl | rfl
    · obtain ⟨b, rest, rfl, digit⟩ := digits.head
      simp [of_isDigit digit]
    · rfl
    · rfl
  unfold skipExponent
  simp only [unsigned, taken, left, digits.isEmpty]
  rfl

/-- What may stand behind the digits of a number is no further digit. -/
theorem Exponent.stops (h : Exponent v) (hs : Follows s) : ∀ b ∈ (v ++ s).head?,
    isDigit b = false ∧ b ≠ 0x2e := by
  cases h with
  | absent => exact fun b hb => ⟨(hs b hb).1, (hs b hb).2.1⟩
  | given marks =>
    rintro b ⟨⟩
    exact of_isExponentMark marks

theorem Fraction.stops (h : Fraction v) (hw : ∀ b ∈ w.head?, isDigit b = false) :
    ∀ b ∈ (v ++ w).head?, isDigit b = false := by
  cases h with
  | absent => exact hw
  | given =>
    rintro b ⟨⟩
    decide

/-- Behind its digits a number ends, or it goes on with an exponent. -/
theorem skip_behind_digits (scaled : Exponent v) (hs : Follows s) :
    (match v ++ s with
      | b :: after => if isExponentMark b then skipExponent after else .ok (b :: after)
      | [] => .ok [] : Except Fault Bytes) = .ok s := by
  cases scaled with
  | absent =>
    cases s with
    | nil => rfl
    | cons b s =>
      have mark := (hs b rfl).2.2
      simp [mark]
  | given marks signed digits =>
    have number := skipExponent_digits signed digits hs
    rw [← List.append_assoc] at number
    simpa [marks] using number

theorem skipFraction_digits {ds exponent : Bytes} (digits : Digits ds) (scaled : Exponent exponent)
    (hs : Follows s) : skipFraction (ds ++ (exponent ++ s)) = .ok s := by
  obtain ⟨taken, left⟩ :=
    span_isDigit digits.digits fun b h => (scaled.stops hs b h).1
  unfold skipFraction
  simp only [taken, left, digits.isEmpty]
  exact skip_behind_digits scaled hs

theorem skipUnsigned_number {int fraction exponent : Bytes} (digits : Digits int)
    (plain : int.head? = some 0x30 → int = [0x30]) (behind : Fraction fraction)
    (scaled : Exponent exponent) (hs : Follows s) :
    skipUnsigned (int ++ (fraction ++ (exponent ++ s))) = .ok s := by
  obtain ⟨taken, left⟩ :=
    span_isDigit digits.digits (behind.stops fun b h => (scaled.stops hs b h).1)
  have short : (int.isEmpty || (int.head? == some 0x30 && decide (1 < int.length))) = false := by
    rw [digits.isEmpty, Bool.false_or]
    by_cases zero : int.head? = some 0x30
    · rw [plain zero]
      rfl
    · simp [zero]
  unfold skipUnsigned
  simp only [taken, left, short]
  cases behind with
  | absent =>
    rw [List.nil_append]
    have point := fun b h => (scaled.stops hs b h).2
    have behind := skip_behind_digits scaled hs
    cases rest : exponent ++ s with
    | nil =>
      rw [rest] at behind
      exact behind
    | cons b after =>
      rw [rest] at behind point
      simpa [point b rfl] using behind
  | given more =>
    have fraction := skipFraction_digits more scaled hs
    simpa using fraction

/-! ## First bytes -/

/-- A value begins with a byte that is no blank and closes no bracket. -/
def Begins (b : UInt8) : Prop := isBlank b = false ∧ b ≠ 0x5d ∧ b ≠ 0x7d

theorem NumberText.head (h : NumberText v) : ∃ b rest, v = b :: rest ∧
    (b = 0x2d ∨ isDigit b = true) := by
  obtain ⟨signed, digits, -, -, -⟩ := h
  rcases signed with rfl | rfl
  · obtain ⟨b, ds, rfl, digit⟩ := digits.head
    exact ⟨b, _, rfl, .inr digit⟩
  · exact ⟨0x2d, _, rfl, .inl rfl⟩

theorem WellFormed.head (h : WellFormed .value v) : ∃ b rest, v = b :: rest ∧ Begins b := by
  cases h with
  | null => exact ⟨_, _, rfl, by decide, by decide, by decide⟩
  | flag b => cases b <;> exact ⟨_, _, rfl, by decide, by decide, by decide⟩
  | number number =>
    obtain ⟨b, rest, rfl, rfl | digit⟩ := number.head
    · exact ⟨_, _, rfl, by decide, by decide, by decide⟩
    · obtain ⟨-, -, -, -, -, -, -, square, -, curly, blank⟩ := of_isDigit digit
      exact ⟨b, rest, rfl, blank, square, curly⟩
  | text => exact ⟨_, _, rfl, by decide, by decide, by decide⟩
  | empty bracket => cases bracket <;> exact ⟨_, _, rfl, by decide, by decide, by decide⟩
  | @full bracket => cases bracket <;> exact ⟨_, _, rfl, by decide, by decide, by decide⟩

theorem Lead.head (h : Lead bracket lead) (one : WellFormed .value v) (w : Bytes) :
    ∃ pad b rest, lead ++ (v ++ w) = pad ++ b :: rest ∧ Blank pad ∧ Begins b := by
  cases h with
  | element blank =>
    obtain ⟨b, rest, rfl, begins⟩ := one.head
    exact ⟨lead, b, rest ++ w, rfl, blank, begins⟩
  | key blank => exact ⟨_, 0x22, _, List.append_assoc .., blank, by decide, by decide, by decide⟩

/-- The first byte after a bracket, blanks aside. -/
theorem WellFormed.head_inside (h : WellFormed (.inside bracket) w) :
    ∃ pad b rest, w = pad ++ b :: rest ∧ Blank pad ∧ Begins b := by
  cases h with
  | last front one => exact front.head one _
  | more front one => exact front.head one _

/-! ## Brackets -/

/-- Goes on where another value begins, or ends where none is due. -/
def proceed (fuel : Nat) : Turn → Except Fault Bytes
  | .finished rest => .ok rest
  | .next brackets rest => skipOpen fuel brackets rest

/-- Goes on behind a value. -/
def resume (fuel : Nat) (brackets : List Bracket) (s : Bytes) : Except Fault Bytes :=
  close false brackets s >>= proceed fuel

theorem skipOpen_append (hp : Blank pad) (fuel : Nat) (brackets : List Bracket) (s : Bytes) :
    skipOpen fuel brackets (pad ++ s) = skipOpen fuel brackets s := by
  cases fuel with
  | zero => rfl
  | succ fuel => rw [skipOpen, skipOpen, skipBlanks_append hp]

theorem bind_proceed (turn : Except Fault Turn) :
    (turn.bind fun
      | .finished rest => .ok rest
      | .next brackets rest => skipOpen fuel brackets rest) = turn.bind (proceed fuel) := by
  refine congrArg turn.bind (funext fun turn => ?_)
  cases turn <;> rfl

theorem skipOpen_scalar {rest : Bytes} (begins : Begins b) (square : b ≠ 0x5b) (curly : b ≠ 0x7b)
    (scalar : skipScalar (b :: rest) = .ok s) :
    skipOpen (fuel + 1) brackets (b :: rest) = resume fuel brackets s := by
  have bare : skipBlanks (b :: rest) = b :: rest := by simp [skipBlanks, begins.1]
  rw [skipOpen, bare]
  simp only [if_neg square, if_neg curly, scalar]
  exact bind_proceed (close false brackets s)

theorem skipOpen_opening (bracket : Bracket) (brackets : List Bracket) (s : Bytes) :
    skipOpen (fuel + 1) brackets (bracket.opening :: s) =
      close true (bracket :: brackets) s >>= proceed fuel := by
  cases bracket with
  | square => exact bind_proceed (close true (.square :: brackets) s)
  | curly => exact bind_proceed (close true (.curly :: brackets) s)

theorem close_closing (hp : Blank pad) (fresh : Bool) (bracket : Bracket) (brackets : List Bracket)
    (s : Bytes) :
    close fresh (bracket :: brackets) (pad ++ bracket.closing :: s) = close false brackets s := by
  rw [close.eq_def]
  simp only [skipBlanks_append hp]
  cases bracket <;> cases fresh <;> rfl

theorem close_comma (hp : Blank pad) (bracket : Bracket) (brackets : List Bracket) (s : Bytes) :
    close false (bracket :: brackets) (pad ++ 0x2c :: s) = enter (bracket :: brackets) s := by
  rw [close.eq_def]
  simp only [skipBlanks_append hp]
  rfl

theorem close_fresh (hp : Blank pad) (begins : Begins b) (bracket : Bracket)
    (brackets : List Bracket) (s : Bytes) :
    close true (bracket :: brackets) (pad ++ b :: s) = enter (bracket :: brackets) (b :: s) := by
  have bare : skipBlanks (b :: s) = b :: s := by simp [skipBlanks, begins.1]
  rw [close.eq_def]
  cases bracket with
  | square => simp [skipBlanks_append hp, bare, begins.2.1]
  | curly => simp [skipBlanks_append hp, bare, begins.2.2]

/-- Blanks in front of a value or a key do not matter. -/
theorem enter_append (hp : Blank pad) (bracket : Bracket) (brackets : List Bracket) (s : Bytes) :
    (enter (bracket :: brackets) (pad ++ s) >>= proceed fuel) =
      (enter (bracket :: brackets) s >>= proceed fuel) := by
  cases bracket with
  | square => exact skipOpen_append hp fuel _ s
  | curly =>
    show (do return Turn.next _ (← skipKey (pad ++ s))) >>= _ =
      (do return Turn.next _ (← skipKey s)) >>= _
    unfold skipKey
    rw [skipBlanks_append hp]

theorem skipKey_lead {content gap : Bytes} (hp : Blank pad) (text : TextContent content)
    (hg : Blank gap) (s : Bytes) :
    skipKey (pad ++ 0x22 :: (content ++ 0x22 :: (gap ++ 0x3a :: s))) = .ok s := by
  have colon : skipBlanks (gap ++ 0x3a :: s) = 0x3a :: s := skipBlanks_append hg _
  unfold skipKey
  rw [skipBlanks_append hp]
  show (skipText (content ++ 0x22 :: (gap ++ 0x3a :: s))).bind _ = _
  rw [skipText_content text]
  simp only [Except.bind, colon]
  rfl

/-- In front of a value its key is passed over. -/
theorem enter_lead (h : Lead bracket lead) (brackets : List Bracket) (s : Bytes) :
    (enter (bracket :: brackets) (lead ++ s) >>= proceed fuel) =
      skipOpen fuel (bracket :: brackets) s := by
  cases h with
  | element blank => exact skipOpen_append blank fuel _ s
  | key blank text before behind =>
    rw [List.append_assoc, List.cons_append, List.append_assoc, List.cons_append, List.append_assoc,
      List.cons_append]
    show ((skipKey _).bind _).bind _ = _
    rw [skipKey_lead blank text before]
    exact skipOpen_append behind fuel _ s

/-! ## Values -/

theorem skipScalar_number (h : NumberText v) (hs : Follows s) : skipScalar (v ++ s) = .ok s := by
  obtain ⟨signed, digits, plain, behind, scaled⟩ := h
  have number := skipUnsigned_number digits plain behind scaled hs
  simp only [List.append_assoc]
  rcases signed with rfl | rfl
  · obtain ⟨b, ds, rfl, digit⟩ := digits.head
    obtain ⟨-, minus, -, null, yes, no, -⟩ := of_isDigit digit
    simpa [skipScalar, minus, null, yes, no, digit] using number
  · exact number

/-- What passing over comes to: a value takes as many turns as it has bytes, at most, and so does
what stands between two brackets. -/
def Skips : Shape → Bytes → Prop
  | .value, v => ∃ n ≤ v.length, ∀ fuel brackets s, Follows s →
      skipOpen (n + fuel) brackets (v ++ s) = resume fuel brackets s
  | .inside bracket, w => ∃ n ≤ w.length, ∀ fuel brackets s,
      enter (bracket :: brackets) (w ++ bracket.closing :: s) >>= proceed (n + fuel) =
        resume fuel brackets s

theorem skips_scalar (h : WellFormed .value v)
    (scalar : ∀ s, Follows s → skipScalar (v ++ s) = .ok s) : Skips .value v := by
  obtain ⟨b, rest, rfl, begins⟩ := h.head
  refine ⟨1, Nat.le_add_left .., fun fuel brackets s hs => ?_⟩
  -- a list or an object is no scalar
  have opening {b : UInt8} (bracket : b = 0x5b ∨ b = 0x7b) :
      skipScalar (b :: (rest ++ s)) = .error .malformed := by
    rcases bracket with rfl | rfl <;> rfl
  have value := scalar s hs
  rw [List.cons_append] at value ⊢
  rw [Nat.add_comm]
  refine skipOpen_scalar begins (fun square => ?_) (fun curly => ?_) value
  · rw [opening (.inl square)] at value
    cases value
  · rw [opening (.inr curly)] at value
    cases value

theorem skips_of_wellFormed {shape : Shape} (h : WellFormed shape w) : Skips shape w := by
  induction h with
  | null => exact skips_scalar .null fun s _ => rfl
  | flag b =>
    refine skips_scalar (.flag b) fun s _ => ?_
    cases b <;> rfl
  | number number => exact skips_scalar (.number number) fun s hs => skipScalar_number number hs
  | text content =>
    refine skips_scalar (.text content) fun s _ => ?_
    rw [List.cons_append, List.append_assoc]
    exact skipText_content content s
  | @empty bracket pad blank =>
    refine ⟨1, Nat.le_add_left .., fun fuel brackets s _ => ?_⟩
    rw [Nat.add_comm, List.cons_append, List.append_assoc, skipOpen_opening]
    exact congrArg (· >>= proceed fuel) (close_closing blank true bracket brackets s)
  | @full bracket w inside ih =>
    obtain ⟨n, fits, turns⟩ := ih
    obtain ⟨pad, b, rest, rfl, blank, begins⟩ := inside.head_inside
    -- one turn for the opening bracket; the closing one takes none of its own
    refine ⟨n + 1, ?_, fun fuel brackets s _ => ?_⟩
    · simp only [List.length_append, List.length_cons] at fits ⊢
      omega
    · have inner := turns fuel brackets s
      rw [List.append_assoc, enter_append blank] at inner
      rw [Nat.add_right_comm, List.cons_append, List.append_assoc, List.append_assoc,
        skipOpen_opening]
      exact (congrArg (· >>= proceed _) (close_fresh blank begins bracket brackets _)).trans inner
  | @last bracket lead v pad front one blank ih =>
    obtain ⟨n, fits, turns⟩ := ih
    refine ⟨n, by simp only [List.length_append]; omega, fun fuel brackets s => ?_⟩
    have behind := follows_append blank (bracket.follows_closing s)
    rw [List.append_assoc, enter_lead front, List.append_assoc, turns _ _ _ behind]
    exact congrArg (· >>= proceed fuel) (close_closing blank false bracket brackets s)
  | @more bracket lead v pad w front one blank others ih ih' =>
    obtain ⟨n, fits, turns⟩ := ih
    obtain ⟨n', fits', turns'⟩ := ih'
    refine ⟨n + n', by simp only [List.length_append, List.length_cons]; omega,
      fun fuel brackets s => ?_⟩
    have behind := follows_append blank (follows_comma (w ++ bracket.closing :: s))
    rw [List.append_assoc, enter_lead front, List.append_assoc, List.append_assoc,
      List.cons_append, Nat.add_assoc, turns _ _ _ behind, ← turns' fuel brackets s]
    exact congrArg (· >>= proceed _) (close_comma blank bracket brackets _)

/-- A value is passed over exactly. -/
theorem skipValue_wellFormed (h : WellFormed .value v) (hp : Blank pad) (enough : v.length ≤ fuel)
    (hs : Follows s) : skipValue fuel (pad ++ (v ++ s)) = .ok s := by
  obtain ⟨n, fits, turns⟩ := skips_of_wellFormed h
  obtain ⟨more, rfl⟩ := Nat.exists_eq_add_of_le (Nat.le_trans fits enough)
  exact (skipOpen_append hp ..).trans (turns more [] s hs)

end Rendezvous.Json

import Rendezvous.Json.Document
import Rendezvous.Json.Reader

/-!
# Numbers are read as they were written

A number is written digit by digit, the last one at the end, and none begins with a zero that it
does not need. A number of 64 bits is read back from its digits if no digit, point or exponent
stands behind them (`Follows`):

    n ≤ maxSignificand → Follows s → numeral (decimal n ++ s) = .ok (.natural n, s)
                                                                       (numeral_decimal)
-/

namespace Rendezvous.Json

variable {s : Bytes} {n : Nat}

/-! ## Digits -/

/-- The digit of a number below ten. -/
def digitByte (m : Nat) : UInt8 := UInt8.ofNat (m % 10 + 0x30)

theorem digitByte_digitChar (h : n < 10) : UInt8.ofNat (Nat.digitChar n).toNat = digitByte n := by
  have all : ∀ m : Fin 10, UInt8.ofNat (Nat.digitChar m).toNat = digitByte m := by decide
  exact all ⟨n, h⟩

theorem isDigit_digitByte (m : Nat) :
    isDigit (digitByte m) = true ∧ digitValue (digitByte m) = m % 10 ∧
      (digitByte m = 0x30 → m % 10 = 0) := by
  have all : ∀ m : Fin 10, isDigit (UInt8.ofNat (m.val + 0x30)) = true ∧
      digitValue (UInt8.ofNat (m.val + 0x30)) = m.val ∧
        (UInt8.ofNat (m.val + 0x30) = 0x30 → m.val = 0) := by decide
  exact all ⟨m % 10, Nat.mod_lt m (by decide)⟩

/-- The last digit stands behind those of the tenth. -/
theorem decimal_eq (n : Nat) :
    decimal n = (if n < 10 then [] else decimal (n / 10)) ++ [digitByte n] := by
  have last : UInt8.ofNat (Nat.digitChar (n % 10)).toNat = digitByte n := by
    rw [digitByte_digitChar (Nat.mod_lt n (by decide))]
    simp [digitByte]
  unfold decimal
  rw [Nat.toDigits_eq_if (by decide)]
  split
  · next h =>
    rw [Nat.mod_eq_of_lt h] at last
    rw [List.map_singleton, last, List.nil_append]
  · rw [List.map_append, List.map_singleton, last]

theorem decimal_ne_nil (n : Nat) : decimal n ≠ [] := by
  rw [decimal_eq]
  simp

theorem isDigit_of_mem_decimal {b : UInt8} (h : b ∈ decimal n) : isDigit b = true := by
  induction n using Nat.strongRecOn with
  | _ n ih =>
    rw [decimal_eq, List.mem_append] at h
    rcases h with h | h
    · split at h
      · cases h
      · exact ih (n / 10) (by omega) h
    · rw [List.mem_singleton.1 h]
      exact (isDigit_digitByte n).1

theorem head_decimal (n : Nat) : ∃ b ds, decimal n = b :: ds ∧ isDigit b = true := by
  obtain ⟨b, ds, hd⟩ := List.exists_cons_of_ne_nil (decimal_ne_nil n)
  exact ⟨b, ds, hd, isDigit_of_mem_decimal (hd ▸ List.mem_cons_self ..)⟩

/-- Only zero begins with a zero. -/
theorem eq_zero_of_head_decimal (h : (decimal n).head? = some 0x30) : n = 0 := by
  induction n using Nat.strongRecOn with
  | _ n ih =>
    rw [decimal_eq, List.head?_append] at h
    split at h
    · next lt =>
      have := (isDigit_digitByte n).2.2 (Option.some.inj h)
      omega
    · next ge =>
      obtain ⟨b, ds, hd, -⟩ := head_decimal (n / 10)
      have above : (decimal (n / 10)).head? = some 0x30 := by
        rw [hd] at h ⊢
        exact h
      have := ih (n / 10) (by omega) above
      omega

/-! ## Values -/

/-- The digits of a number of 64 bits fit, and their value is the number. -/
theorem integerDigits_decimal (h : n ≤ maxSignificand) : integerDigits (decimal n) = (n, 0) := by
  induction n using Nat.strongRecOn with
  | _ n ih =>
    have above : integerDigits (if n < 10 then [] else decimal (n / 10)) = (n / 10, 0) := by
      split
      · next lt =>
        rw [Nat.div_eq_of_lt lt]
        rfl
      · exact ih (n / 10) (by omega) (by omega)
    have value : n / 10 * 10 + digitValue (digitByte n) = n := by
      rw [(isDigit_digitByte n).2.1]
      omega
    rw [decimal_eq]
    unfold integerDigits at above ⊢
    rw [List.foldl_append, above]
    simp [value, h]

/-- Bytes with which no number goes on. -/
def Follows (s : Bytes) : Prop :=
  ∀ b ∈ s.head?, isDigit b = false ∧ b ≠ 0x2e ∧ isExponentMark b = false

/-- A run of digits ends where something else stands. -/
theorem span_isDigit {ds : Bytes} (digits : ∀ b ∈ ds, isDigit b = true)
    (stops : ∀ b ∈ s.head?, isDigit b = false) :
    (ds ++ s).takeWhile isDigit = ds ∧ (ds ++ s).dropWhile isDigit = s := by
  have behind : s.takeWhile isDigit = [] ∧ s.dropWhile isDigit = s := by
    cases s with
    | nil => exact ⟨rfl, rfl⟩
    | cons c s => simp [stops c rfl]
  rw [List.takeWhile_append_of_pos digits, List.dropWhile_append_of_pos digits, behind.1, behind.2]
  exact ⟨List.append_nil _, rfl⟩

theorem numeral_decimal (h : n ≤ maxSignificand) (hs : Follows s) :
    numeral (decimal n ++ s) = .ok (.natural n, s) := by
  obtain ⟨b, ds, hd, digit⟩ := head_decimal n
  have unsigned_eq : numeral (decimal n ++ s) = unsigned false (decimal n ++ s) := by
    have plus : b ≠ 0x2d := by
      rintro rfl
      exact absurd digit (by decide)
    rw [hd]
    exact if_neg plus
  have nonempty : (decimal n ++ s).isEmpty = false := by rw [hd]; rfl
  have plain : ((decimal n).isEmpty ||
      ((decimal n).head? == some 0x30 && decide (1 < (decimal n).length))) = false := by
    by_cases zero : n = 0
    · subst zero
      decide
    · have : (decimal n).head? ≠ some 0x30 := fun e => zero (eq_zero_of_head_decimal e)
      simp [this, decimal_ne_nil]
  obtain ⟨taken, left⟩ :=
    span_isDigit (fun b => isDigit_of_mem_decimal (n := n)) fun b h => (hs b h).1
  rw [unsigned_eq]
  unfold unsigned
  simp only [nonempty, taken, left, plain, integerDigits_decimal h, Bool.false_eq_true, if_false]
  cases s with
  | nil => rfl
  | cons c s =>
    obtain ⟨-, point, mark⟩ := hs c rfl
    simp [point, mark, wholeNumber]

/-- The digits of a number of 64 bits are read as the number. -/
theorem readWord_decimal {fuel : Nat} (n : UInt64) (hs : Follows s) :
    readWord fuel (decimal n.toNat ++ s) = .ok (n, s) := by
  have number := numeral_decimal (Nat.le_pred_of_lt n.toNat_lt) hs
  obtain ⟨b, ds, hd, digit⟩ := head_decimal n.toNat
  have bare : isBlank b = false := by
    simp only [isDigit, Bool.and_eq_true, decide_eq_true_eq, UInt8.le_iff_toNat_le] at digit
    have blanks : ∀ m : UInt8, m.toNat < 0x30 → b ≠ m := by
      rintro m hm rfl
      exact absurd digit.1 (Nat.not_le.2 hm)
    simp [isBlank, blanks]
  rw [hd, List.cons_append] at number ⊢
  have skipped : skipBlanks (b :: (ds ++ s)) = b :: (ds ++ s) := by
    simp [skipBlanks, bare]
  unfold readWord
  simp only [skipped, digit, Bool.or_true, if_true, number]
  simp [bind, Except.bind, pure, Except.pure]

end Rendezvous.Json

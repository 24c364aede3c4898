/-!
# Random tokens

Salts and request sequences are runs of ASCII letters and digits. Where the randomness comes
from is outside the library: a token is a function of the numbers drawn for it.
-/

namespace Rendezvous.Token

/-! ## Algorithm -/

/-- The 62 characters that tokens are made of. -/
def alphabet : List Char := "ABCDEFGHIJKLMNOPQRSTUVWXYZabcdefghijklmnopqrstuvwxyz0123456789".toList

def char (draw : Nat) : Char := alphabet.getD (draw % 62) 'A'

/-- One character per number drawn. -/
def ofDraws (draws : List Nat) : String := String.ofList (draws.map char)

/-- The token made of the first `length` draws of a source. -/
def generate (length : Nat) (source : Nat → Nat) : String :=
  ofDraws ((List.range length).map source)

def saltLength : Nat := 8

def sequenceLength : Nat := 32

/-- A salt for a new credential. -/
def salt (source : Nat → Nat) : String := generate saltLength source

/-- A token that names one request in flight. -/
def sequence (source : Nat → Nat) : String := generate sequenceLength source

/-! ## Lemmas -/

theorem isAlphanum_char (draw : Nat) : (char draw).isAlphanum = true := by
  have h : ∀ n, n < 62 → (alphabet.getD n 'A').isAlphanum = true := by decide +kernel
  exact h _ (Nat.mod_lt _ (by decide))

theorem length_generate (length : Nat) (source : Nat → Nat) :
    (generate length source).length = length := by
  simp [generate, ofDraws]

end Rendezvous.Token

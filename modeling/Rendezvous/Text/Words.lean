/-!
# Lines and words

A shell line is cut into words at white space. White space is the Unicode property of that name,
which holds more than the ASCII blanks.
-/

namespace Rendezvous.Text

/-- Whether a character is white space. -/
def isBlank (c : Char) : Bool :=
  let n := c.toNat
  (9 ≤ n && n ≤ 13) || n == 32 || n == 0x85 || n == 0xa0 || n == 0x1680 ||
    (0x2000 ≤ n && n ≤ 0x200a) || n == 0x2028 || n == 0x2029 || n == 0x202f || n == 0x205f ||
    n == 0x3000

/-- Cuts a list wherever `p` holds; the cuts themselves are dropped. -/
def splitWhere {α : Type} (p : α → Bool) : List α → List (List α)
  | [] => [[]]
  | a :: as =>
    if p a then [] :: splitWhere p as
    else
      match splitWhere p as with
      | [] => [[a]]
      | run :: runs => (a :: run) :: runs

/-- The runs of a text between white space. -/
def words (s : String) : List String :=
  ((splitWhere isBlank s.toList).filter (!·.isEmpty)).map String.ofList

/-- The lines of a text; a line feed at the very end does not open another one. -/
def lines (s : String) : List String :=
  let runs := splitWhere (· == '\n') s.toList
  let runs := if runs.getLast?.all List.isEmpty then runs.dropLast else runs
  runs.map String.ofList

end Rendezvous.Text

import Rendezvous.Text.Hex

/-!
# JSON: writing

A document is written either compactly, with no blanks at all, or laid out with one member to a
line and two spaces of indentation per level. Texts escape quotes, backslashes and control
characters, and nothing else.
-/

namespace Rendezvous.Json

/-- What can be written. Members stand in the order given. -/
inductive Document where
  | text (s : String)
  | flag (b : Bool)
  | natural (n : Nat)
  | list (ds : List Document)
  | object (ms : List (String × Document))

/-! ## Scalars -/

/-- One byte of a text: the escapes with a letter of their own, `\u00` and two digits for the other
control characters, and the byte itself otherwise. -/
def escapeByte (b : UInt8) : Bytes :=
  if b = 0x22 then [0x5c, 0x22]
  else if b = 0x5c then [0x5c, 0x5c]
  else if b = 0x08 then [0x5c, 0x62]
  else if b = 0x0c then [0x5c, 0x66]
  else if b = 0x0a then [0x5c, 0x6e]
  else if b = 0x0d then [0x5c, 0x72]
  else if b = 0x09 then [0x5c, 0x74]
  else if b < 0x20 then [0x5c, 0x75, 0x30, 0x30] ++ Utf8.encode (Hex.encode [b])
  else [b]

/-- A text between quotes. -/
def quote (s : String) : Bytes := 0x22 :: ((Utf8.encode s).flatMap escapeByte ++ [0x22])

def flagBytes (b : Bool) : Bytes :=
  if b then [0x74, 0x72, 0x75, 0x65] else [0x66, 0x61, 0x6c, 0x73, 0x65]

/-- The decimal digits of a number. -/
def decimal (n : Nat) : Bytes := (Nat.toDigits 10 n).map fun c => UInt8.ofNat c.toNat

/-! ## Layouts -/

namespace Document

mutual

/-- The compact form. -/
def compact : Document → Bytes
  | .text s => quote s
  | .flag b => flagBytes b
  | .natural n => decimal n
  | .list ds => 0x5b :: (compactItems true ds ++ [0x5d])
  | .object ms => 0x7b :: (compactMembers true ms ++ [0x7d])

def compactItems (first : Bool) : List Document → Bytes
  | [] => []
  | d :: ds => (if first then [] else [0x2c]) ++ compact d ++ compactItems false ds

def compactMembers (first : Bool) : List (String × Document) → Bytes
  | [] => []
  | (k, d) :: ms =>
    (if first then [] else [0x2c]) ++ quote k ++ [0x3a] ++ compact d ++ compactMembers false ms

end

/-- A line feed and the indentation of a level. -/
def newline (level : Nat) : Bytes := 0x0a :: List.replicate (2 * level) 0x20

mutual

/-- The laid-out form at a level of indentation. -/
def indented (level : Nat) : Document → Bytes
  | .text s => quote s
  | .flag b => flagBytes b
  | .natural n => decimal n
  | .list [] => [0x5b, 0x5d]
  | .list ds => 0x5b :: (indentedItems (level + 1) true ds ++ newline level ++ [0x5d])
  | .object [] => [0x7b, 0x7d]
  | .object ms => 0x7b :: (indentedMembers (level + 1) true ms ++ newline level ++ [0x7d])

def indentedItems (level : Nat) (first : Bool) : List Document → Bytes
  | [] => []
  | d :: ds =>
    (if first then [] else [0x2c]) ++ newline level ++ indented level d ++
      indentedItems level false ds

def indentedMembers (level : Nat) (first : Bool) : List (String × Document) → Bytes
  | [] => []
  | (k, d) :: ms =>
    (if first then [] else [0x2c]) ++ newline level ++ quote k ++ [0x3a, 0x20] ++
      indented level d ++ indentedMembers level false ms

end

/-- The laid-out form. -/
def pretty (d : Document) : Bytes := indented 0 d

end Document

end Rendezvous.Json

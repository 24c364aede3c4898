import Rendezvous.Json.Fault

/-!
# JSON: blanks, literals and texts

The lexical layer works on bytes, left to right, and the first problem met wins. A text that is
kept has its escapes resolved and must be well-formed UTF-8 at its closing quote; a text that is
only passed over is checked for the shape of its escapes and nothing else.
-/

namespace Rendezvous.Json

/-! ## Blanks and literals -/

/-- Space, line feed, tab and carriage return. -/
def isBlank (b : UInt8) : Bool := b == 0x20 || b == 0x0a || b == 0x09 || b == 0x0d

def skipBlanks (s : Bytes) : Bytes := s.dropWhile isBlank

/-- Reads the rest of a literal such as `null`. -/
def literal : Bytes → Bytes → Except Fault Bytes
  | [], s => .ok s
  | _ :: _, [] => .error .ended
  | w :: word, b :: s => if b = w then literal word s else .error .malformed

/-! ## Texts -/

def hexValue? (b : UInt8) : Option Nat :=
  if 0x30 ≤ b && b ≤ 0x39 then some (b.toNat - 0x30)
  else if 0x41 ≤ b && b ≤ 0x46 then some (b.toNat - 0x41 + 10)
  else if 0x61 ≤ b && b ≤ 0x66 then some (b.toNat - 0x61 + 10)
  else none

/-- The code unit spelled by four hexadecimal digits. -/
def codeUnit? (a b c d : UInt8) : Option Nat := do
  let a ← hexValue? a
  let b ← hexValue? b
  let c ← hexValue? c
  let d ← hexValue? d
  return ((a * 16 + b) * 16 + c) * 16 + d

/-- The first half of a surrogate pair. -/
def isLeading (n : Nat) : Bool := 0xd800 ≤ n && n ≤ 0xdbff

/-- The second half of a surrogate pair. -/
def isTrailing (n : Nat) : Bool := 0xdc00 ≤ n && n ≤ 0xdfff

/-- The character of a surrogate pair. -/
def pairCharacter (lead trail : Nat) : Char :=
  Char.ofNat ((lead - 0xd800) * 0x400 + (trail - 0xdc00) + 0x10000)

/-- What a one-letter escape stands for. -/
def shortEscape? (b : UInt8) : Option UInt8 :=
  if b = 0x22 then some 0x22
  else if b = 0x5c then some 0x5c
  else if b = 0x2f then some 0x2f
  else if b = 0x62 then some 0x08
  else if b = 0x66 then some 0x0c
  else if b = 0x6e then some 0x0a
  else if b = 0x72 then some 0x0d
  else if b = 0x74 then some 0x09
  else none

/-- Reads a text after its opening quote: its bytes, behind those in `acc` (latest first), and
what follows the closing quote. -/
def textBody (acc : Bytes) : Bytes → Except Fault (Bytes × Bytes)
  | [] => .error .ended
  | b :: rest =>
    if b = 0x22 then .ok (acc.reverse, rest)
    else if b = 0x5c then
      match rest with
      | [] => .error .ended
      | e :: rest =>
        if e = 0x75 then
          match rest with
          | h₁ :: h₂ :: h₃ :: h₄ :: rest =>
            match codeUnit? h₁ h₂ h₃ h₄ with
            | none => .error .malformed
            | some n =>
              if isTrailing n then .error .malformed
              else if isLeading n then
                match rest with
                | [] => .error .ended
                | s :: rest =>
                  if s = 0x5c then
                    match rest with
                    | [] => .error .ended
                    | u :: rest =>
                      if u = 0x75 then
                        match rest with
                        | t₁ :: t₂ :: t₃ :: t₄ :: rest =>
                          match codeUnit? t₁ t₂ t₃ t₄ with
                          | none => .error .malformed
                          | some m =>
                            if isTrailing m then
                              textBody
                                ((String.utf8EncodeChar (pairCharacter n m)).reverse ++ acc) rest
                            else .error .malformed
                        | _ => .error .ended
                      else .error .malformed
                  else .error .malformed
              else textBody ((String.utf8EncodeChar (Char.ofNat n)).reverse ++ acc) rest
          | _ => .error .ended
        else
          match shortEscape? e with
          | none => .error .malformed
          | some c => textBody (c :: acc) rest
    else if b < 0x20 then .error .malformed
    else textBody (b :: acc) rest

/-- Reads a text that is kept, after its opening quote. -/
def text (s : Bytes) : Except Fault (String × Bytes) := do
  let (bytes, rest) ← textBody [] s
  match Utf8.decode? bytes with
  | some t => .ok (t, rest)
  | none => .error .malformed

/-- Passes over a text after its opening quote. -/
def skipText : Bytes → Except Fault Bytes
  | [] => .error .ended
  | b :: rest =>
    if b = 0x22 then .ok rest
    else if b = 0x5c then
      match rest with
      | [] => .error .ended
      | e :: rest =>
        if e = 0x75 then
          match rest with
          | h₁ :: h₂ :: h₃ :: h₄ :: rest =>
            match codeUnit? h₁ h₂ h₃ h₄ with
            | none => .error .malformed
            | some _ => skipText rest
          | _ => .error .ended
        else
          match shortEscape? e with
          | none => .error .malformed
          | some _ => skipText rest
    else if b < 0x20 then .error .malformed
    else skipText rest

end Rendezvous.Json

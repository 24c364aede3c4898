import Rendezvous.Text.Printable

/-!
# Quoted text

Messages that repeat a caller's text put it between double quotes, with every character that
could not be told apart on a terminal written as an escape.
-/

namespace Rendezvous.Text

/-- One character inside quotes. -/
def quotedChar (c : Char) : List Char :=
  match c with
  | '"' => ['\\', '"']
  | '\\' => ['\\', '\\']
  | '\n' => ['\\', 'n']
  | '\r' => ['\\', 'r']
  | '\t' => ['\\', 't']
  | '\x00' => ['\\', '0']
  | c =>
    if isPrintable c then [c]
    else ['\\', 'u', '\x7b'] ++ Nat.toDigits 16 c.toNat ++ ['\x7d']

/-- A text between double quotes. -/
def quoted (s : String) : String :=
  String.ofList ('"' :: s.toList.flatMap quotedChar ++ ['"'])

/-- Quotes, backslashes and the usual control characters have short escapes; other control
characters are spelled by their code point, and apostrophes stand as they are. -/
example :
    quoted "a\"b\\c\n\x1b'é" = "\"a\\\"b\\\\c\\n\\u\x7b1b\x7d'é\"" := by
  decide +kernel

/-- Accents over another character, the end of a syllable without a vowel and fillers that show
nothing are spelled; letters and halfwidth sound marks are not. -/
example :
    quoted "é\u0301ꦏ\ua9c0\u3164ﾊ\uff9f" =
      "\"é\\u\x7b301\x7dꦏ\\u\x7ba9c0\x7d\\u\x7b3164\x7dﾊ\uff9f\"" := by
  decide +kernel

end Rendezvous.Text

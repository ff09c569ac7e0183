import PolishCalc.Text.Printable

/-!
# Quoted texts in messages

A text inside a message stands between quotation marks. A backslash, a quotation mark and four
controls are written with a backslash; a character that cannot be seen by itself is written as its
code point in hexadecimal digits.
-/

namespace PolishCalc.Text

/-- The code point of a character between braces. -/
def codePoint (c : Char) : List Char :=
  ['\\', 'u', '\x7b'] ++ Nat.toDigits 16 c.toNat ++ ['\x7d']

/-- One character of a quoted text. -/
def quotedChar (c : Char) : List Char :=
  match c with
  | '\x00' => ['\\', '0']
  | '\t' => ['\\', 't']
  | '\r' => ['\\', 'r']
  | '\n' => ['\\', 'n']
  | '\\' => ['\\', '\\']
  | '"' => ['\\', '"']
  | c => if isLegible c then [c] else codePoint c

/-- A text between quotation marks. -/
def quoted (text : String) : String :=
  String.ofList ('"' :: text.toList.flatMap quotedChar ++ ['"'])

end PolishCalc.Text

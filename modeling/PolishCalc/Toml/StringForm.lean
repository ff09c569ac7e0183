import PolishCalc.Toml.Lexeme

/-!
# Writing TOML strings

A string is written in the plainest form that can hold it: a basic string of one line, a literal
string of one line, a basic string of several lines, a literal string of several lines, and where
none of them holds it as it stands, a basic string with escapes. `Toml.string` reads every written
form back.
-/

namespace PolishCalc.Toml

/-- The characters that stand in no literal string: ASCII controls but tabs and line feeds. -/
def isControl (c : Char) : Bool :=
  (c.toNat < 0x20 && c != '\t' && c != '\n') || c.toNat == 0x7F

/-- The forms of a string. -/
inductive StringForm where
  | basic
  | literal
  | multilineBasic
  | multilineLiteral
  deriving DecidableEq, Repr

namespace StringForm

/-- Whether a character occurs three times in a row. -/
def hasTriple (quote : Char) : List Char → Bool
  | a :: b :: c :: rest =>
    (a == quote && b == quote && c == quote) || hasTriple quote (b :: c :: rest)
  | _ => false

/-- The form in which a text is written. -/
def of (text : List Char) : StringForm :=
  let controlled := text.any isControl
  let severalLines := text.contains '\n'
  let backslash := text.contains '\\'
  if !controlled && !severalLines && !backslash && !text.contains '"' then .basic
  else if !controlled && !severalLines && !text.contains '\'' then .literal
  else if !controlled && !backslash && !hasTriple '"' text then .multilineBasic
  else if !controlled && !hasTriple '\'' text then .multilineLiteral
  else if severalLines then .multilineBasic
  else .basic

/-- A hexadecimal digit in upper case. -/
def hexDigit (n : Nat) : Char :=
  (Nat.digitChar n).toUpper

/-- A character of a basic string, apart from line feeds and quotation marks. -/
def escapeControl (c : Char) : List Char :=
  match c with
  | '\x08' => ['\\', 'b']
  | '\t' => ['\\', 't']
  | '\x0c' => ['\\', 'f']
  | '\r' => ['\\', 'r']
  | '\\' => ['\\', '\\']
  | c =>
    if isControl c then
      ['\\', 'u', '0', '0', hexDigit (c.toNat / 16), hexDigit (c.toNat % 16)]
    else
      [c]

/-- A character of a basic string of one line. -/
def escapeBasic (c : Char) : List Char :=
  if c = '"' then ['\\', '"']
  else if c = '\n' then ['\\', 'n']
  else escapeControl c

/-- The characters of a basic string of several lines. Every third quotation mark of a row is
escaped, so that no three of them stand together; `run` counts those that stand before. -/
def escapeMultiline : (run : Nat) → List Char → List Char
  | _, [] => []
  | run, c :: rest =>
    if c = '"' then
      if run = 2 then '\\' :: '"' :: escapeMultiline 0 rest
      else '"' :: escapeMultiline (run + 1) rest
    else if c = '\n' then '\n' :: escapeMultiline 0 rest
    else escapeControl c ++ escapeMultiline 0 rest

/-- A text that holds a line feed starts on a line of its own. -/
def firstLineEnd (text : List Char) : List Char :=
  if text.contains '\n' then ['\n'] else []

/-- A text in a given form. -/
def write (text : List Char) : StringForm → List Char
  | basic => '"' :: text.flatMap escapeBasic ++ ['"']
  | literal => '\'' :: text ++ ['\'']
  | multilineBasic =>
    ['"', '"', '"'] ++ firstLineEnd text ++ escapeMultiline 0 text ++ ['"', '"', '"']
  | multilineLiteral =>
    ['\'', '\'', '\''] ++ firstLineEnd text ++ text ++ ['\'', '\'', '\'']

end StringForm

/-- A text as a string. -/
def writeString (text : String) : String :=
  String.ofList (StringForm.write text.toList (StringForm.of text.toList))

end PolishCalc.Toml

/-!
# Lexemes of TOML

The smallest parts of a TOML 1.0 document: blanks, line ends, comments, and the four forms of
strings. A reader takes the text that is left and returns what it read with the text after it, or
`none` where the text is not well-formed.
-/

namespace PolishCalc.Toml

/-- Reads something at the start of a text. -/
abbrev Reader (α : Type) := List Char → Option (α × List Char)

/-- The blanks of a line. -/
def isBlank (c : Char) : Bool :=
  c == ' ' || c == '\t'

/-- The characters that may stand in comments and, delimiters apart, in strings: a tab, and all that
are no ASCII controls. -/
def isVisible (c : Char) : Bool :=
  c == '\t' || (0x20 ≤ c.toNat && c.toNat != 0x7F)

/-- The text after the blanks at its start. -/
def skipBlanks (text : List Char) : List Char :=
  text.dropWhile isBlank

/-- The text after a line end at its start. -/
def lineEnd? : List Char → Option (List Char)
  | '\n' :: rest => some rest
  | '\r' :: '\n' :: rest => some rest
  | _ => none

/-- The text after the rest of a line that holds at most blanks and a comment. The last line needs
no line end. -/
def finishLine (text : List Char) : Option (List Char) :=
  let afterBlanks := skipBlanks text
  let afterComment :=
    match afterBlanks with
    | '#' :: comment => comment.dropWhile isVisible
    | other => other
  if afterComment.isEmpty then some [] else lineEnd? afterComment

/-- The text after blanks, line ends and whole comments. -/
def skipLines : (inComment : Bool) → List Char → Option (List Char)
  | _, '\n' :: rest => skipLines false rest
  | _, '\r' :: '\n' :: rest => skipLines false rest
  | true, c :: rest => if isVisible c then skipLines true rest else none
  | true, [] => none
  | false, '#' :: rest => skipLines true rest
  | false, c :: rest => if isBlank c then skipLines false rest else some (c :: rest)
  | false, [] => some []

/-! ## Strings -/

/-- The character of a one-letter escape. -/
def simpleEscape? : Char → Option Char
  | 'b' => some '\x08'
  | 't' => some '\t'
  | 'n' => some '\n'
  | 'f' => some '\x0c'
  | 'r' => some '\r'
  | '"' => some '"'
  | '\\' => some '\\'
  | _ => none

/-- The value of a hexadecimal digit in either case. -/
def hexDigit? (c : Char) : Option Nat :=
  if '0' ≤ c ∧ c ≤ '9' then some (c.toNat - '0'.toNat)
  else if 'a' ≤ c ∧ c ≤ 'f' then some (c.toNat - 'a'.toNat + 10)
  else if 'A' ≤ c ∧ c ≤ 'F' then some (c.toNat - 'A'.toNat + 10)
  else none

/-- The character whose code point has the given hexadecimal digits. -/
def codePoint? (digits : List Char) : Option Char := do
  let n ← digits.foldlM (fun n c => (hexDigit? c).map (16 * n + ·)) 0
  if h : n.isValidChar then some (Char.ofNatAux n h) else none

/-- Puts a character before a string that was read. -/
def prepend (c : Char) : Option (List Char × List Char) → Option (List Char × List Char) :=
  Option.map fun (value, rest) => (c :: value, rest)

/-- The rest of a basic string of one line, after its opening quotation mark. -/
def basicBody : Reader (List Char)
  | [] => none
  | '"' :: rest => some ([], rest)
  | '\\' :: 'u' :: a :: b :: c :: d :: rest => do
    prepend (← codePoint? [a, b, c, d]) (basicBody rest)
  | '\\' :: 'U' :: a :: b :: c :: d :: e :: f :: g :: h :: rest => do
    prepend (← codePoint? [a, b, c, d, e, f, g, h]) (basicBody rest)
  | '\\' :: e :: rest => do
    prepend (← simpleEscape? e) (basicBody rest)
  | c :: rest => if isVisible c then prepend c (basicBody rest) else none

/-- The rest of a literal string of one line, after its opening apostrophe. -/
def literalBody : Reader (List Char)
  | [] => none
  | '\'' :: rest => some ([], rest)
  | c :: rest => if isVisible c then prepend c (literalBody rest) else none

/-- After three delimiters, up to two more of them belong to the string. -/
def closeMultiline (quote : Char) (rest : List Char) : List Char × List Char :=
  let extra := (rest.takeWhile (· == quote)).take 2
  (extra, rest.drop extra.length)

/-- Whether only blanks are left on the line. -/
def endsLine (text : List Char) : Bool :=
  (lineEnd? (skipBlanks text)).isSome

/-- The rest of a basic string of several lines. After a backslash at the end of a line, blanks and
line ends are skipped up to the next other character. -/
def multilineBasicBody : (skipping : Bool) → Reader (List Char)
  | _, [] => none
  | skipping, '\n' :: rest =>
    if skipping then multilineBasicBody true rest
    else prepend '\n' (multilineBasicBody false rest)
  | skipping, '\r' :: '\n' :: rest =>
    if skipping then multilineBasicBody true rest
    else prepend '\n' (multilineBasicBody false rest)
  | _, '"' :: '"' :: '"' :: rest => some (closeMultiline '"' rest)
  | _, '\\' :: 'u' :: a :: b :: c :: d :: rest => do
    prepend (← codePoint? [a, b, c, d]) (multilineBasicBody false rest)
  | _, '\\' :: 'U' :: a :: b :: c :: d :: e :: f :: g :: h :: rest => do
    prepend (← codePoint? [a, b, c, d, e, f, g, h]) (multilineBasicBody false rest)
  | _, '\\' :: e :: rest =>
    match simpleEscape? e with
    | some c => prepend c (multilineBasicBody false rest)
    | none => if endsLine (e :: rest) then multilineBasicBody true (e :: rest) else none
  | skipping, c :: rest =>
    if skipping && isBlank c then multilineBasicBody true rest
    else if isVisible c then prepend c (multilineBasicBody false rest)
    else none

/-- The rest of a literal string of several lines. -/
def multilineLiteralBody : Reader (List Char)
  | [] => none
  | '\n' :: rest => prepend '\n' (multilineLiteralBody rest)
  | '\r' :: '\n' :: rest => prepend '\n' (multilineLiteralBody rest)
  | '\'' :: '\'' :: '\'' :: rest => some (closeMultiline '\'' rest)
  | c :: rest => if isVisible c then prepend c (multilineLiteralBody rest) else none

/-- A line end directly after the opening delimiter is not part of the string. -/
def dropFirstLineEnd (text : List Char) : List Char :=
  (lineEnd? text).getD text

/-- A string in any of the four forms. -/
def string : Reader (List Char)
  | '"' :: '"' :: '"' :: rest => multilineBasicBody false (dropFirstLineEnd rest)
  | '"' :: rest => basicBody rest
  | '\'' :: '\'' :: '\'' :: rest => multilineLiteralBody (dropFirstLineEnd rest)
  | '\'' :: rest => literalBody rest
  | _ => none

end PolishCalc.Toml

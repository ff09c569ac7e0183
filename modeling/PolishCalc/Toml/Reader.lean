import PolishCalc.Toml.Lexeme
import PolishCalc.Toml.Table

/-!
# Reading TOML

`Toml.read?` reads a TOML 1.0 document. Collections may be nested up to a fixed depth and dotted
keys may have a fixed number of parts. The readers of sequences take as many steps as there are
characters left, which is more than they need, since each step reads at least one.
-/

namespace PolishCalc.Toml

/-- Collections may be nested this deep. -/
def maxNesting : Nat := 79

/-- Dotted keys may have this many parts. -/
def maxKeyParts : Nat := 79

/-! ## Keys -/

/-- The characters of a key without quotation marks. -/
def isKeyChar (c : Char) : Bool :=
  c.isAlphanum || c == '_' || c == '-'

/-- One part of a key. -/
def keyPart : Reader String
  | '"' :: rest => do
    let (value, rest) ← basicBody rest
    return (String.ofList value, rest)
  | '\'' :: rest => do
    let (value, rest) ← literalBody rest
    return (String.ofList value, rest)
  | text =>
    let name := text.takeWhile isKeyChar
    if name.isEmpty then none else some (String.ofList name, text.dropWhile isKeyChar)

/-- The parts of a dotted key, with the blanks around them. -/
def keyParts : (steps : Nat) → Reader (List String)
  | 0, _ => none
  | steps + 1, text => do
    let (part, rest) ← keyPart (skipBlanks text)
    match skipBlanks rest with
    | '.' :: rest => do
      let (parts, rest) ← keyParts steps rest
      return (part :: parts, rest)
    | rest => return ([part], rest)

/-- A dotted key. -/
def key : Reader Key := fun text => do
  let (parts, rest) ← keyParts maxKeyParts text
  return ({ path := parts.dropLast, last := ← parts.getLast? }, rest)

/-! ## Values -/

/-- A bare value. A date and a time may be separated by one space. -/
def bareValue : Reader Scalar := fun text => do
  let word := text.takeWhile isBare
  match text.dropWhile isBare with
  | ' ' :: c :: rest =>
    if afterDate? word = some [] && c.isDigit then
      let time := (c :: rest).takeWhile isBare
      return (← Scalar.ofBare? (word ++ ' ' :: time), (c :: rest).dropWhile isBare)
    else
      return (← Scalar.ofBare? word, ' ' :: c :: rest)
  | rest => return (← Scalar.ofBare? word, rest)

/-- The rest of an array after its opening bracket or one of its commas. -/
def arrayItems (item : Reader Node) : (steps : Nat) → Reader (List Node)
  | 0, _ => none
  | steps + 1, text => do
    match ← skipLines false text with
    | ']' :: rest => return ([], rest)
    | text => do
      let (first, rest) ← item text
      match ← skipLines false rest with
      | ']' :: rest => return ([first], rest)
      | ',' :: rest => do
        let (others, rest) ← arrayItems item steps rest
        return (first :: others, rest)
      | _ => none

/-- A key, an equals sign and a value on one line. -/
def pair (item : Reader Node) : Reader (Key × Node) := fun text => do
  let (key, rest) ← key text
  match rest with
  | '=' :: rest => do
    let (value, rest) ← item (skipBlanks rest)
    return ((key, value), rest)
  | _ => none

/-- The pairs of an inline table that is not empty, up to its closing brace. -/
def inlinePairs (item : Reader Node) : (steps : Nat) → Reader (List (Key × Node))
  | 0, _ => none
  | steps + 1, text => do
    let (first, rest) ← pair item text
    match skipBlanks rest with
    | '\x7d' :: rest => return ([first], rest)
    | ',' :: rest => do
      let (others, rest) ← inlinePairs item steps rest
      return (first :: others, rest)
    | _ => none

/-- The rest of an inline table after its opening brace. -/
def inlineTable (item : Reader Node) : Reader Node := fun text => do
  match skipBlanks text with
  | '\x7d' :: rest => return (.table .inline [], rest)
  | text => do
    let (pairs, rest) ← inlinePairs item text.length text
    return (.table .inline (← Entries.ofPairs? pairs), rest)

/-- A value whose collections are nested at most `depth` deep. -/
def value : (depth : Nat) → Reader Node
  | 0, text => atom text
  | depth + 1, text =>
    match text with
    | '[' :: rest => do
      let (items, rest) ← arrayItems (value depth) (rest.length + 1) rest
      return (.array items, rest)
    | '\x7b' :: rest => inlineTable (value depth) rest
    | _ => atom text
where
  /-- A value that is no collection. -/
  atom : Reader Node := fun text =>
    match text with
    | '"' :: _ => stringValue text
    | '\'' :: _ => stringValue text
    | _ => do
      let (scalar, rest) ← bareValue text
      return (.scalar scalar, rest)
  /-- A string as a value. -/
  stringValue : Reader Node := fun text => do
    let (characters, rest) ← string text
    return (.scalar (.string (String.ofList characters)), rest)

/-! ## Documents -/

/-- A line that is not empty, without the rest of the line after it. -/
def statement : Reader Statement
  | '[' :: '[' :: rest => do
    let (key, rest) ← key rest
    match rest with
    | ']' :: ']' :: rest => return (.openRow key, rest)
    | _ => none
  | '[' :: rest => do
    let (key, rest) ← key rest
    match rest with
    | ']' :: rest => return (.openTable key, rest)
    | _ => none
  | text => do
    let ((key, node), rest) ← pair (value maxNesting) text
    return (.define key node, rest)

/-- The lines of a document. -/
def statements : (steps : Nat) → List Char → Option (List Statement)
  | 0, _ => none
  | steps + 1, text =>
    match skipBlanks text with
    | [] => some []
    | text =>
      match finishLine text with
      | some rest => statements steps rest
      | none => do
        let (first, rest) ← statement text
        return first :: (← statements steps (← finishLine rest))

/-- A mark of the byte order at the start of a text is skipped. -/
def dropByteOrderMark : List Char → List Char
  | '\uFEFF' :: rest => rest
  | text => text

/-- Reads a document; `none` if it is not well-formed. -/
def read? (text : String) : Option Entries := do
  let characters := dropByteOrderMark text.toList
  Entries.ofStatements? (← statements (characters.length + 1) characters)

end PolishCalc.Toml

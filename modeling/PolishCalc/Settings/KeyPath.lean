import PolishCalc.Decimal.Integer

/-!
# Key paths

A key path addresses a value inside nested maps and sequences: `a.b` is the entry `b` of the map
`a`, and `a[3]` an item of the sequence `a`. Names consist of ASCII letters and digits, blanks,
underscores and hyphens.
-/

namespace PolishCalc

/-- One step into a nested value. -/
inductive KeyStep where
  | child (name : String)
  | item (index : Int)
  deriving DecidableEq, Repr

/-- A name at the top, and the steps below it. -/
structure KeyPath where
  head : String
  steps : List KeyStep
  deriving DecidableEq, Repr

namespace KeyPath

/-- The characters of names. -/
def isNameChar (c : Char) : Bool :=
  c.isAlphanum || c == ' ' || c == '_' || c == '-'

/-- A name at the start of a text. -/
def name? (text : List Char) : Option (String × List Char) :=
  let name := text.takeWhile isNameChar
  if name.isEmpty then none else some (String.ofList name, text.dropWhile isNameChar)

/-- An index at the start of a text, with blanks around it and the closing bracket after it. -/
def index? (text : List Char) : Option (Int × List Char) := do
  let isBlank (c : Char) : Bool := c == ' ' || c == '\t'
  let text := text.dropWhile isBlank
  let (sign, digits) := match text with
    | '-' :: rest => (['-'], rest)
    | rest => ([], rest)
  let index ← Decimal.readInteger? (sign ++ digits.takeWhile Char.isDigit)
  match (digits.dropWhile Char.isDigit).dropWhile isBlank with
  | ']' :: rest => some (index, rest)
  | _ => none

/-- The steps that a text consists of. Each of them has at least two characters, so `fuel` may be
the length of the text. -/
def steps? : (fuel : Nat) → List Char → Option (List KeyStep)
  | _, [] => some []
  | 0, _ => none
  | fuel + 1, '.' :: rest => do
    let (name, rest) ← name? rest
    return .child name :: (← steps? fuel rest)
  | fuel + 1, '[' :: rest => do
    let (index, rest) ← index? rest
    return .item index :: (← steps? fuel rest)
  | _, _ => none

/-- Reads a path. -/
def parse? (text : List Char) : Option KeyPath := do
  let (head, rest) ← name? text
  return { head, steps := ← steps? rest.length rest }

/-- Reads a path; a text that is none is a plain name of its own. -/
def ofText (text : List Char) : KeyPath :=
  (parse? text).getD { head := String.ofList text, steps := [] }

end KeyPath

end PolishCalc

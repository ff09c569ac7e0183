import PolishCalc.Text.CaseTable

/-!
# Lower case

The lower-case form of a text. A character has its simple mapping, except that the dotted capital I
becomes two characters, and that a capital sigma becomes the final form where it ends a word: where
a cased character comes before it and none after it, with case-ignorable characters passed over.
-/

namespace PolishCalc.Text

/-- The simple lower-case mapping. -/
def lowerChar (c : Char) : Char :=
  match caseRuns.find? (·.contains c.toNat) with
  | some run => Char.ofNat (c.toNat + run.offset).toNat
  | none => c

/-- Whether the first character that is not case-ignorable is cased. -/
def meetsCased (text : List Char) : Bool :=
  match text.dropWhile (caseIgnorableRanges.contains ·) with
  | [] => false
  | c :: _ => casedRanges.contains c

/-- The lower-case form of a text; `before` holds the characters before it, the last one first. -/
def lowerAfter (before : List Char) : List Char → List Char
  | [] => []
  | c :: rest =>
    let lower :=
      if c = 'İ' then ['i', '\u0307']
      else if c = 'Σ' then
        if meetsCased before && !meetsCased rest then ['ς'] else ['σ']
      else [lowerChar c]
    lower ++ lowerAfter (c :: before) rest

/-- The lower-case form of a text. -/
def lower (text : String) : String :=
  String.ofList (lowerAfter [] text.toList)

end PolishCalc.Text

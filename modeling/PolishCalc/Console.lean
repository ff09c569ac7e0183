import PolishCalc.Host.Script

/-!
# Lines on the console

The forms of the lines that the program writes about itself: a check mark before what was done, a
label before a value, and a coloured word before an error or a hint. Colour is a parameter; what is
written as data is never coloured.
-/

namespace PolishCalc.Console

/-- The sequence that ends a style. -/
def reset : List Char := "\x1b[0m".toList

/-- The styles of words. -/
inductive Style where
  | green
  | yellow
  | boldRed
  deriving DecidableEq, Repr

/-- The sequence that starts a style. -/
def Style.start : Style → List Char
  | green => "\x1b[32m".toList
  | yellow => "\x1b[33m".toList
  | boldRed => "\x1b[1;31m".toList

/-- A text in which the style starts again after each sequence that ends it. -/
def resume (style : Style) : List Char → List Char
  | [] => []
  | '\x1b' :: '[' :: '0' :: 'm' :: rest => reset ++ style.start ++ resume style rest
  | c :: rest => c :: resume style rest

/-- A text in a style, if there is colour. -/
def painted (color : Bool) (style : Style) (text : String) : String :=
  if color then
    String.ofList (style.start ++ resume style text.toList ++ reset)
  else
    text

/-- Something was done. -/
def success (color : Bool) (message : String) : String :=
  painted color .green "✓" ++ " " ++ message ++ "\n"

/-- A value under a label. -/
def action (color : Bool) (label message : String) : String :=
  painted color .green label ++ ": " ++ message ++ "\n"

/-- Data, without colour. -/
def info (message : String) : String :=
  message ++ "\n"

/-- An error. -/
def error (color : Bool) (message : String) : String :=
  painted color .boldRed "error" ++ ": " ++ message ++ "\n"

/-- A hint after an error. -/
def hint (color : Bool) (message : String) : String :=
  painted color .yellow "hint" ++ ": " ++ message ++ "\n"

end PolishCalc.Console

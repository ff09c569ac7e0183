import PolishCalc.Decimal.Integer
import PolishCalc.Toml.StringForm

/-!
# Settings

What a user can configure: whether the reading is strict, the expression that is run when none is
given, and a fixed number of places for results. Settings come in layers; an `Overlay` is what one
layer says, and `Settings.merge` lets it win field by field. `Settings.toToml` writes settings as a
file that a layer can be read from.
-/

namespace PolishCalc

/-- The expression that is run when none is given and none is configured. -/
def sampleExpression : String := "+-+7*/935/82*/625"

/-- The configuration of a run. -/
structure Settings where
  /-- Refuse texts that leave operands without an operator. -/
  strict : Bool := false
  /-- The expression that is run when none is given. -/
  sample : String := sampleExpression
  /-- The number of places of results; shortest digits if there is none. -/
  precision : Option Nat := none
  deriving DecidableEq, Repr

/-- What one layer of configuration specifies. -/
structure Overlay where
  strict : Option Bool := none
  sample : Option String := none
  precision : Option Nat := none
  deriving DecidableEq, Repr

/-- What a value of the configuration turned out to be in place of what its key needs. -/
inductive FoundValue where
  | text (value : String)
  | map
  | sequence
  deriving DecidableEq, Repr

/-- What the reader of documents says about a text that it refuses. -/
abbrev Diagnosis := String → String

/-- The words that every diagnosis starts with, for a reader that says no more. -/
def Diagnosis.opening : Diagnosis := fun _ => "TOML parse error"

/-- The causes for which a configuration is refused. -/
inductive ConfigError where
  /-- A file that was asked for does not exist. -/
  | fileMissing (path : String)
  /-- A file cannot be read, for the given reason. -/
  | unreadable (path reason : String)
  /-- A file is no TOML document, or one of its values has the wrong type; with what the reader of
  documents says about that. -/
  | malformed (path diagnosis : String)
  /-- A variable has a value of the wrong type. -/
  | wrongType (key expected : String) (found : FoundValue)
  /-- A number of places that is negative. -/
  | negativePrecision (value : Int)
  /-- A number of places that a file cannot hold. -/
  | unwritablePrecision
  deriving DecidableEq, Repr

namespace Settings

/-- The settings before any layer. -/
def default : Settings := {}

/-- An overlay wins where it specifies a field. -/
def merge (base : Settings) (overlay : Overlay) : Settings where
  strict := overlay.strict.getD base.strict
  sample := overlay.sample.getD base.sample
  precision := overlay.precision.or base.precision

/-- The settings as a TOML document; a number of places must fit into an integer of it. -/
def toToml (settings : Settings) : Except ConfigError String :=
  let lines := "strict = " ++ (if settings.strict then "true" else "false") ++ "\n" ++
    "sample_expression = " ++ Toml.writeString settings.sample ++ "\n"
  match settings.precision with
  | none => .ok lines
  | some places =>
    if places < Decimal.integerBound then
      .ok (lines ++ "precision = " ++ String.ofList (Nat.toDigits 10 places) ++ "\n")
    else
      .error .unwritablePrecision

/-- The commented document that a new configuration file starts with. -/
def template : String :=
  "# exptree configuration\n\n" ++
  "# Reject expressions such as \"12\" that leave operands without an operator\n" ++
  "strict = false\n\n" ++
  "# Expression evaluated when none is given\n" ++
  "sample_expression = \"" ++ sampleExpression ++ "\"\n\n" ++
  "# Fixed number of decimals for results\n" ++
  "# precision = 2\n"

end Settings

end PolishCalc

import PolishCalc.Settings.Basic
import PolishCalc.Toml.Reader

/-!
# Settings in files

A configuration file is a TOML document. Three top-level keys are settings, and all other keys are
ignored, whatever their values are.
-/

namespace PolishCalc

namespace Overlay

/-- The value of a key by a reader of values. A key that is missing specifies nothing; a value that
the reader refuses spoils the document. -/
def field? {α : Type} (entries : Toml.Entries) (key : String) (read : Toml.Scalar → Option α) :
    Option (Option α) :=
  match entries.find? key with
  | none => some none
  | some (.scalar scalar) => (read scalar).map some
  | some _ => none

/-- A boolean. -/
def boolean? : Toml.Scalar → Option Bool
  | .boolean value => some value
  | _ => none

/-- A string. -/
def string? : Toml.Scalar → Option String
  | .string value => some value
  | _ => none

/-- An integer that is not negative. -/
def natural? : Toml.Scalar → Option Nat
  | .integer value => if 0 ≤ value then some value.toNat else none
  | _ => none

/-- What the top-level table of a document specifies. -/
def ofEntries? (entries : Toml.Entries) : Option Overlay := do
  return {
    strict := ← field? entries "strict" boolean?
    sample := ← field? entries "sample_expression" string?
    precision := ← field? entries "precision" natural? }

/-- What a configuration file specifies; `none` if it is malformed. -/
def ofToml? (text : String) : Option Overlay := do
  ofEntries? (← Toml.read? text)

end Overlay

end PolishCalc

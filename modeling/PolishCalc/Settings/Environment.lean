import PolishCalc.Settings.Basic
import PolishCalc.Settings.KeyPath
import PolishCalc.Text.LowerCase
import PolishCalc.Text.Quoted

/-!
# Settings in variables

Environment variables whose lower-cased names start with `exptree_` are settings. The rest of such a
name, with each double underscore read as a dot, is a key path; one that leads into `strict` makes
that setting a map or a sequence, which is refused. What the variables specify does not depend on
the settings below them.
-/

namespace PolishCalc

/-- Environment variables with their values. -/
abbrev Environment := List (String × String)

namespace Environment

/-- The value of the variable with exactly this name. -/
def get? (environment : Environment) (name : String) : Option String :=
  environment.lookup name

/-- The start of the lower-cased names of settings. -/
def namePrefix : List Char := "exptree_".toList

/-- A text with a dot in place of each double underscore. -/
def dotted : List Char → List Char
  | '_' :: '_' :: rest => '.' :: dotted rest
  | c :: rest => c :: dotted rest
  | [] => []

/-- The key path of a variable, if it is a setting. -/
def keyPath? (name : String) : Option KeyPath :=
  let lowered := (Text.lower name).toList
  if namePrefix.isPrefixOf lowered then
    some (KeyPath.ofText (dotted (lowered.drop namePrefix.length)))
  else
    none

/-- What a variable makes of the setting at the head of its path. -/
def found (path : KeyPath) (value : String) : FoundValue :=
  match path.steps.head? with
  | none => .text value
  | some (.child _) => .map
  | some (.item _) => .sequence

/-- What a setting is in the environment. Of several variables for it the last one counts. -/
def find? (environment : Environment) (key : String) : Option FoundValue :=
  (environment.filterMap fun (name, value) => do
    let path ← keyPath? name
    if path.head = key then some (found path value) else none).getLast?

/-- A boolean, in words or as a digit. -/
def boolean (key : String) : FoundValue → Except ConfigError Bool
  | .text value =>
    let word := Text.lower value
    if word ∈ ["1", "true", "on", "yes"] then .ok true
    else if word ∈ ["0", "false", "off", "no"] then .ok false
    else .error (.wrongType key "a boolean" (.text word))
  | other => .error (.wrongType key "a boolean" other)

/-- A text, as it stands. -/
def text (key : String) : FoundValue → Except ConfigError String
  | .text value => .ok value
  | other => .error (.wrongType key "a string" other)

/-- An integer of 64 bits; the words for booleans stand for one and zero. -/
def integer (key : String) : FoundValue → Except ConfigError Int
  | .text value =>
    let word := Text.lower value
    if word ∈ ["true", "on", "yes"] then .ok 1
    else if word ∈ ["false", "off", "no"] then .ok 0
    else
      match Decimal.readInteger? value.toList with
      | some n => .ok n
      | none => .error (.wrongType key "an integer" (.text value))
  | other => .error (.wrongType key "an integer" other)

/-- A number of places. -/
def places (key : String) (value : FoundValue) : Except ConfigError Nat := do
  let n ← integer key value
  if n < 0 then .error (.negativePrecision n) else .ok n.toNat

/-- The value of a setting by a reader of values; a setting without a variable is not specified. -/
def field {α : Type} (environment : Environment) (key : String)
    (read : String → FoundValue → Except ConfigError α) : Except ConfigError (Option α) :=
  match environment.find? key with
  | none => .ok none
  | some value => (read key value).map some

/-- What the variables specify. The first setting that is refused decides the error. -/
def overlay (environment : Environment) : Except ConfigError Overlay := do
  let strict ← environment.field "strict" boolean
  let sample ← environment.field "sample_expression" text
  let precision ← environment.field "precision" places
  return { strict, sample, precision }

end Environment

/-- Settings with the layer of the environment on top of them. -/
def Settings.withEnvironment (base : Settings) (environment : Environment) :
    Except ConfigError Settings := do
  return base.merge (← environment.overlay)

namespace ConfigError

/-- The text of a value that was found. -/
def describe : FoundValue → String
  | .text value => "string " ++ Text.quoted value
  | .map => "map"
  | .sequence => "sequence"

/-- A text value comes from a variable; a map or a sequence is made of several and has no origin. -/
def origin : FoundValue → String
  | .text _ => " in the environment"
  | _ => ""

/-- The text that is shown to the user. -/
def message : ConfigError → String
  | fileMissing path => s!"config file not found: {path}"
  | unreadable path reason => s!"read {path}: {reason}"
  | malformed path diagnosis => s!"parse {path}: {diagnosis}"
  | wrongType key expected found =>
    s!"invalid type: {describe found}, expected {expected} for key " ++ "`" ++ key ++ "`" ++
      origin found
  | negativePrecision value => s!"precision must not be negative: {value}"
  | unwritablePrecision => "serialize settings: out-of-range value for u64 type"

end ConfigError

end PolishCalc

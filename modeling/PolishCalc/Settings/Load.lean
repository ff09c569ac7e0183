import PolishCalc.Settings.File
import PolishCalc.Surroundings
import PolishCalc.RunError
import PolishCalc.Host.Script

/-!
# Loading settings

Settings are resolved layer by layer: the defaults, the global file if it exists, an explicit file
that must exist, and the environment. The first layer that fails decides the error.
-/

namespace PolishCalc.Settings

/-- An error of the configuration ends a run. -/
def refuse (error : ConfigError) : RunError :=
  .config error.message

/-- Reads what a configuration file specifies. -/
def readOverlay (path : String) (diagnosis : Diagnosis) : Script RunError Overlay :=
  .readFile path fun
    | .error fault => .fail (refuse (.unreadable path fault.message))
    | .ok text =>
      match Overlay.ofToml? text with
      | some overlay => .done overlay
      | none => .fail (refuse (.malformed path (diagnosis text)))

/-- Puts the global file, if there is one, on top of settings. -/
def withGlobalFile (base : Settings) (path : Option String) (diagnosis : Diagnosis) :
    Script RunError Settings :=
  match path with
  | none => .done base
  | some path => .hasPath path fun
    | true => do return base.merge (← readOverlay path diagnosis)
    | false => .done base

/-- Puts an explicit file, if one is asked for, on top of settings. -/
def withExplicitFile (base : Settings) (path : Option String)
    (diagnosis : Diagnosis := .opening) : Script RunError Settings :=
  match path with
  | none => .done base
  | some path => .hasPath path fun
    | true => do return base.merge (← readOverlay path diagnosis)
    | false => .fail (refuse (.fileMissing path))

/-- Resolves the settings of a run. -/
def load (surroundings : Surroundings) (explicit : Option String) : Script RunError Settings := do
  let settings ← withGlobalFile default surroundings.globalConfig? surroundings.diagnosis
  let settings ← settings.withExplicitFile explicit surroundings.diagnosis
  Script.ofExcept ((settings.withEnvironment surroundings.environment).mapError refuse)

end PolishCalc.Settings

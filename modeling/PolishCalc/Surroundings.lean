import PolishCalc.CommandLine.Invocation
import PolishCalc.Settings.Environment
import PolishCalc.Host.Path

/-!
# Surroundings of a run

What a run is told from outside and does not change: the environment variables, the home directory
that the user's account has, and whether the output has colour; also the texts that are made by what
the program is linked with. The global configuration file stands below the configuration directory
of the user.
-/

namespace PolishCalc

/-- The variables of an environment block: entries of a name, an equals sign and a value, each ended
by a NUL character. -/
def Environment.ofBlock (block : String) : Environment :=
  (block.splitOn "\x00").filterMap fun entry =>
    match entry.splitOn "=" with
    | name :: value :: more => some (name, String.intercalate "=" (value :: more))
    | _ => none

/-- What a run is told from outside. -/
structure Surroundings where
  environment : Environment := []
  /-- The home directory of the account, for when `HOME` names none. -/
  accountHome : Option String := none
  color : Bool := false
  /-- The script that makes a shell complete the words of the program. -/
  completion : Shell → String := Shell.noCompletion
  /-- What is said about the text of a configuration file that is malformed. -/
  diagnosis : Diagnosis := .opening

namespace Surroundings

/-- The home directory of the user. -/
def home? (surroundings : Surroundings) : Option String :=
  match surroundings.environment.get? "HOME" with
  | some home => if home.isEmpty then surroundings.accountHome else some home
  | none => surroundings.accountHome

/-- The directory of configuration files. A path in `XDG_CONFIG_HOME` counts only if it is absolute,
and only for users with a home directory. -/
def configDirectory? (surroundings : Surroundings) : Option String := do
  let home ← surroundings.home?
  match surroundings.environment.get? "XDG_CONFIG_HOME" with
  | some path => if Path.isAbsolute path then path else Path.below home ".config"
  | none => Path.below home ".config"

/-- The path of the global configuration file. -/
def globalConfig? (surroundings : Surroundings) : Option String := do
  return Path.below (Path.below (← surroundings.configDirectory?) "exptree") "exptree.toml"

/-- Whether output is coloured: `CLICOLOR_FORCE` decides first, then `NO_COLOR`, and then whether
the output is a terminal that `CLICOLOR` does not forbid to colour. -/
def wantsColor (environment : Environment) (isTerminal : Bool) : Bool :=
  let given (name : String) : Option Bool := (environment.get? name).map (· != "0")
  if given "CLICOLOR_FORCE" == some true then true
  else if (given "NO_COLOR").isSome then false
  else (given "CLICOLOR").getD true && isTerminal

end Surroundings

end PolishCalc

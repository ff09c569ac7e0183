import PolishCalc.CommandLine.Invocation

/-!
# Levels of the command line

The words of a command line descend through levels: the program, its commands, and the commands
below those. Each level has its options, its positional arguments and the names of the levels below
it. Three options and the requests for help and version exist on every level.
-/

namespace PolishCalc.CommandLine

/-- The version of the program. -/
def version : String := "0.1.0"

/-- A place on the way down through the commands. -/
inductive Level where
  | program
  | eval
  | render
  | tree
  | interactive
  | config
  | configShow
  | configPath
  | configInit
  | completion
  deriving DecidableEq, Repr

/-- What a word can be given for. -/
inductive Argument where
  | help
  | version
  | debug
  | config
  | strict
  | order
  | force
  | expression
  | shell
  deriving DecidableEq, Repr

namespace Argument

/-- The name after two hyphens. -/
def long : Argument → String
  | help => "help"
  | version => "version"
  | debug => "debug"
  | config => "config"
  | strict => "strict"
  | order => "order"
  | force => "force"
  | expression => "expression"
  | shell => "shell"

/-- The letter after one hyphen. -/
def short? : Argument → Option Char
  | help => some 'h'
  | version => some 'V'
  | debug => some 'd'
  | config => some 'c'
  | order => some 'o'
  | force => some 'f'
  | _ => none

/-- Whether an option is followed by a value. -/
def takesValue : Argument → Bool
  | config => true
  | order => true
  | _ => false

/-- Whether a positional argument may start with a hyphen. -/
def allowsHyphen : Argument → Bool
  | expression => true
  | _ => false

end Argument

namespace Level

/-- The name of a level, with the names of those above it. -/
def fullName : Level → String
  | program => "exptree"
  | eval => "exptree-eval"
  | render => "exptree-render"
  | tree => "exptree-tree"
  | interactive => "exptree-interactive"
  | config => "exptree-config"
  | configShow => "exptree-config-show"
  | configPath => "exptree-config-path"
  | configInit => "exptree-config-init"
  | completion => "exptree-completion"

/-- The levels below a level, by name. -/
def below : Level → List (String × Level)
  | program =>
    [("eval", eval), ("render", render), ("tree", tree), ("interactive", interactive),
      ("config", config), ("completion", completion)]
  | config => [("show", configShow), ("path", configPath), ("init", configInit)]
  | _ => []

/-- The word that asks for help on a level below; only levels with levels below know it. -/
def helpWord : String := "help"

/-- Whether a word leads down from a level. -/
def isSubcommand (level : Level) (word : String) : Bool :=
  !level.below.isEmpty && (word == helpWord || (level.below.lookup word).isSome)

/-- The options of a level. -/
def options (level : Level) : List Argument :=
  [.help, .version, .debug, .config, .strict] ++
    match level with
    | render => [.order]
    | configInit => [.force]
    | _ => []

/-- The positional arguments of a level. -/
def positionals : Level → List Argument
  | eval => [.expression]
  | render => [.expression]
  | tree => [.expression]
  | completion => [.shell]
  | _ => []

/-- The option of a level with the given name. -/
def longOption? (level : Level) (name : List Char) : Option Argument :=
  level.options.find? fun argument => argument.long.toList == name

/-- The option of a level with the given letter. -/
def shortOption? (level : Level) (letter : Char) : Option Argument :=
  level.options.find? fun argument => argument.short? == some letter

/-- The text that tells the version of a level. -/
def versionText (level : Level) : String :=
  level.fullName ++ " " ++ version ++ "\n"

end Level

end PolishCalc.CommandLine

import PolishCalc.CommandLine.Level

/-!
# Texts about the command line

The usage text lists the commands and options by walking through the levels, so that a level or an
option cannot be missing from it. A command line that is not understood is answered with its cause.
-/

namespace PolishCalc

namespace CommandLine

/-- What an option is for. -/
def Argument.purpose : Argument → String
  | help => "Print help"
  | version => "Print version"
  | debug => "Debug output (-d info, -dd debug, -ddd trace)"
  | config => "Config file (overrides the global config)"
  | strict => "Reject expressions that leave operands without an operator"
  | order => "Traversal order (" ++ String.intercalate ", " (Order.all.map Order.name) ++ ")"
  | force => "Overwrite an existing file"
  | expression => "Prefix expression, e.g. \"+12\""
  | shell => "Shell type (" ++ String.intercalate ", " (Shell.all.map Shell.name) ++ ")"

/-- What a level is for. -/
def Level.purpose : Level → String
  | program => "Build, evaluate and render prefix expressions"
  | eval => "Evaluate and show all three renderings (sample expression if omitted)"
  | render => "Show a single rendering"
  | tree => "Show the tree shape"
  | interactive => "Ask for an expression on stdin (default)"
  | config => "Manage settings"
  | configShow => "Show merged config"
  | configPath => "Show config paths"
  | configInit => "Create config template"
  | completion => "Generate shell completions"

/-- The spelling of an option, the letter before the name. -/
def Argument.spelling (argument : Argument) : String :=
  match argument.short? with
  | some letter => "-" ++ letter.toString ++ ", --" ++ argument.long
  | none => "--" ++ argument.long

/-- A line of a list in the usage text. -/
def item (name purpose : String) : String :=
  "  " ++ name ++ "  " ++ purpose ++ "\n"

/-- The usage text of a level. -/
def Level.helpText (level : Level) : String :=
  let commands := level.below.map fun (name, next) => item name next.purpose
  let positionals := level.positionals.map fun argument => item argument.long argument.purpose
  let options := level.options.map fun argument => item argument.spelling argument.purpose
  let part (title : String) (items : List String) : String :=
    if items.isEmpty then "" else "\n" ++ title ++ ":\n" ++ String.join items
  level.purpose ++ "\n" ++ part "Commands" commands ++ part "Arguments" positionals ++
    part "Options" options

end CommandLine

/-- The text that answers a command line that is not run. -/
def UsageError.message : UsageError → String
  | unknownArgument => "error: unexpected argument found\n"
  | invalidSubcommand => "error: unrecognized subcommand\n"
  | invalidValue => "error: missing or invalid value for an argument\n"
  | tooManyValues => "error: unexpected value for a flag\n"
  | argumentConflict => "error: an argument cannot be used multiple times\n"
  | missingRequiredArgument => "error: a required argument was not provided\n"
  | missingSubcommand => "error: a subcommand is required but was not provided\n"
  | helpInsteadOfNothing => CommandLine.Level.config.helpText
  | helpRequested => CommandLine.Level.program.helpText
  | versionRequested text => text

end PolishCalc

import PolishCalc.CommandLine.Level

/-!
# Reading command lines

The words of a command line are read one after the other by a state of the current level. A word is
a level below, an option, the value of an option before it, or a positional argument. A value is
kept pending and looked at only when the next argument arrives or the words are over; so of two
faults in a line the one that is met first in this order is reported. A level below is read to the
end of the line before the pending value of the level above is looked at.

Where an expression is due, a word that starts with a hyphen is the expression unless it is wholly
made of known options.
-/

namespace PolishCalc.CommandLine

/-- The values that a level was given. -/
structure Given where
  debug : Nat := 0
  config : Option String := none
  strict : Bool := false
  order : Option Order := none
  force : Bool := false
  expression : Option String := none
  shell : Option Shell := none
  deriving DecidableEq, Repr

/-- An argument that has arrived and is not yet looked at, with its value if that is there. -/
structure Pending where
  argument : Argument
  value : Option String
  deriving DecidableEq, Repr

/-- The state of a level. -/
structure State where
  level : Level
  given : Given := {}
  pending : Option Pending := none
  /-- Whether the next word is the value of the pending option. -/
  awaitsValue : Bool := false
  /-- The number of positional arguments so far. -/
  position : Nat := 0
  /-- Whether two hyphens have ended the options. -/
  onlyPositionals : Bool := false
  deriving DecidableEq, Repr

/-- The largest count of a repeated flag. -/
def maxCount : Nat := 255

/-- Gives an argument that can be given once its value. -/
def once {α : Type} (old : Option α) (new : Except UsageError α) : Except UsageError (Option α) :=
  if old.isSome then .error .argumentConflict else new.map some

/-- Sets a flag that can be given once. -/
def flagOnce (old : Bool) : Except UsageError Bool :=
  if old then .error .argumentConflict else .ok true

/-- The value that an argument needs. -/
def required {α : Type} (value : Option α) : Except UsageError α :=
  match value with
  | some value => .ok value
  | none => .error .invalidValue

/-- A path must not be empty. -/
def pathValue (text : String) : Except UsageError String :=
  if text.isEmpty then .error .invalidValue else .ok text

namespace Given

/-- Takes an argument with its value. -/
def take (level : Level) (given : Given) (argument : Argument) (value : Option String) :
    Except UsageError Given :=
  match argument with
  | .help => .error .helpRequested
  | .version => .error (.versionRequested level.versionText)
  | .debug => .ok { given with debug := min maxCount (given.debug + 1) }
  | .strict => do return { given with strict := ← flagOnce given.strict }
  | .force => do return { given with force := ← flagOnce given.force }
  | .config => do
    let text ← required value
    return { given with config := ← once given.config (pathValue text) }
  | .order => do
    let text ← required value
    return { given with order := ← once given.order (required (Order.ofName? text)) }
  | .expression => do
    let text ← required value
    return { given with expression := ← once given.expression (.ok text) }
  | .shell => do
    let text ← required value
    return { given with shell := ← once given.shell (required (Shell.ofName? text)) }

/-- Whether one of the options of every level was given. -/
def hasOption (given : Given) : Bool :=
  given.debug != 0 || given.config.isSome || given.strict

end Given

namespace State

/-- Looks at the pending argument. -/
def settle (state : State) : Except UsageError State :=
  match state.pending with
  | none => .ok { state with awaitsValue := false }
  | some pending => do
    let given ← state.given.take state.level pending.argument pending.value
    return { state with given, pending := none, awaitsValue := false }

/-- Takes an argument whose value, if any, is known, after the pending one. -/
def take (state : State) (argument : Argument) (value : Option String) :
    Except UsageError State := do
  let state ← state.settle
  return { state with given := ← state.given.take state.level argument value }

/-- Takes an option that awaits its value, after the pending argument. -/
def await (state : State) (argument : Argument) : Except UsageError State := do
  let state ← state.settle
  return { state with pending := some ⟨argument, none⟩, awaitsValue := true }

/-- Whether the positional argument that is due may start with a hyphen. -/
def allowsHyphen (state : State) : Bool :=
  (state.level.positionals[state.position]?).any Argument.allowsHyphen

/-- Reads the word after two hyphens as an option; `none` if it is a value. -/
def longOption (state : State) (word : List Char) : Except UsageError (Option State) :=
  let name := word.takeWhile (· != '=')
  let value := match word.dropWhile (· != '=') with
    | _ :: rest => some (String.ofList rest)
    | [] => none
  match state.level.longOption? name with
  | none => if state.allowsHyphen then .ok none else .error .unknownArgument
  | some argument =>
    match argument.takesValue, value with
    | true, some value => (state.take argument (some value)).map some
    | true, none => (state.await argument).map some
    | false, some _ => .error .tooManyValues
    | false, none => (state.take argument none).map some

/-- Reads letters as options one by one. An option with a value takes the rest of the letters as
that, without an equals sign before it, or else awaits it. -/
def letters (state : State) : List Char → Except UsageError State
  | [] => .ok state
  | letter :: rest =>
    match state.level.shortOption? letter with
    | none => .error .unknownArgument
    | some argument =>
      if argument.takesValue then
        match rest with
        | [] => state.await argument
        | '=' :: value => state.take argument (some (String.ofList value))
        | value => state.take argument (some (String.ofList value))
      else do
        (← state.take argument none).letters rest

/-- Reads the letters after one hyphen as options; `none` if they are a value. -/
def shortOptions (state : State) (word : List Char) : Except UsageError (Option State) :=
  if state.allowsHyphen && word.any (fun letter => (state.level.shortOption? letter).isNone) then
    .ok none
  else
    (state.letters word).map some

/-- Reads a word as options; `none` if it is a value. A single hyphen is a value. -/
def options (state : State) (word : String) : Except UsageError (Option State) :=
  match word.toList with
  | '-' :: '-' :: rest => state.longOption rest
  | ['-'] => .ok none
  | '-' :: rest => state.shortOptions rest
  | _ => .ok none

/-- Takes a word that is neither an option nor its value. -/
def positional (state : State) (word : String) : Except UsageError State :=
  match state.level.positionals[state.position]? with
  | some argument => do
    let state ← state.settle
    return { state with pending := some ⟨argument, some word⟩, position := state.position + 1 }
  | none =>
    if state.onlyPositionals && state.level.isSubcommand word then .error .unknownArgument
    else if !state.level.below.isEmpty then .error .invalidSubcommand
    else .error .unknownArgument

/-- Takes a word that does not lead to another level. -/
def step (state : State) (word : String) : Except UsageError State :=
  if state.onlyPositionals then
    state.positional word
  else if word = "--" then
    .ok { state with onlyPositionals := true }
  else do
    match ← state.options word with
    | some state => return state
    | none =>
      match state.awaitsValue, state.pending with
      -- only now, so that a word which is wholly an option is never the value of another one
      | true, some pending =>
        let filled : Pending := { pending with value := some word }
        return { state with pending := some filled, awaitsValue := false }
      | _, _ => state.positional word

/-- Whether a word leads to a level below. Words are not names of levels where a value is awaited or
options are over. -/
def subcommand? (state : State) (word : String) : Bool :=
  !state.onlyPositionals && !state.awaitsValue && state.level.isSubcommand word

/-- The command of a level that needs no level below it. -/
def command (state : State) : Except UsageError (Option Command) :=
  let given := state.given
  let demand {α : Type} (value : Option α) : Except UsageError α :=
    match value with
    | some value => .ok value
    | none => .error .missingRequiredArgument
  match state.level with
  | .program => .ok none
  | .eval => .ok (some (.eval given.expression))
  | .render => do
    return some (.render (← demand given.expression) (given.order.getD .inorder))
  | .tree => do return some (.tree (← demand given.expression))
  | .interactive => .ok (some .interactive)
  | .config => .error (if given.hasOption then .missingSubcommand else .helpInsteadOfNothing)
  | .configShow => .ok (some .configShow)
  | .configPath => .ok (some .configPath)
  | .configInit => .ok (some (.configInit given.force))
  | .completion => do return some (.completion (← demand given.shell))

/-- The invocation at the end of the words. What a level below was given wins over what this level
was given. -/
def finish (state : State) (below : Option Invocation) : Except UsageError Invocation := do
  let state ← state.settle
  let given := state.given
  match below with
  | none =>
    return {
      debug := given.debug
      config := given.config
      strict := given.strict
      command := ← state.command }
  | some inner =>
    return {
      debug := if inner.debug = 0 then given.debug else inner.debug
      config := inner.config.or given.config
      strict := inner.strict || given.strict
      command := inner.command }

end State

/-- Follows the words after a request for help down the levels. -/
def helpOn : Level → List String → UsageError
  | _, [] => .helpRequested
  | level, word :: rest =>
    match level.below.lookup word with
    | some next => helpOn next rest
    | none =>
      if level.isSubcommand word then
        if rest.isEmpty then .helpRequested else .invalidSubcommand
      else
        .invalidSubcommand

/-- Reads the words of a level. -/
def parseLevel (state : State) : List String → Except UsageError Invocation
  | [] => state.finish none
  | word :: rest =>
    if state.subcommand? word then
      match state.level.below.lookup word with
      | some level => do
        -- the pending argument of this level is looked at in `finish`, after the level below
        let inner ← parseLevel { level } rest
        state.finish (some inner)
      | none => .error (helpOn state.level rest)
    else do
      parseLevel (← state.step word) rest

/-- Reads the words after the name of the program. -/
def parse (words : List String) : Except UsageError Invocation :=
  parseLevel { level := .program } words

end PolishCalc.CommandLine

import PolishCalc.Host.Account
import PolishCalc.Program

/-!
# The main function

Runs the program on the real files, input and output. Everything that is decided is decided by
`Program.plan` and `Program.conclude`; here each step of a script is only carried out.
-/

namespace PolishCalc.Main

/-- Whether an action succeeds. -/
def succeeds (action : IO Unit) : IO Bool :=
  try
    action
    return true
  catch _ => return false

/-- The bytes up to and including the next line feed. -/
partial def nextLine (input : IO.FS.Stream) (line : ByteArray) : IO ByteArray := do
  let more ← input.read 1
  if more.isEmpty then return line
  else if more.data.contains Text.lineFeed then return line ++ more
  else nextLine input (line ++ more)

/-- The text of a file. -/
def readText (path : String) : IO (Except ReadFault String) :=
  try
    let content ← IO.FS.readBinFile path
    match Text.decode? content.toList with
    | some text => return .ok text
    | none => return .error .notText
  catch
    | .noFileOrDirectory .. => return .error .notFound
    | .inappropriateType .. => return .error .isDirectory
    | error => return .error (.other (toString error))

/-- The text of a file, or no text if there is none. -/
def readTextOrEmpty (path : String) : IO String := do
  return (← readText path).toOption.getD ""

/-- Carries out a script. Nothing but this tells why a run ends without an answer. -/
def perform {ε α : Type} (input output : IO.FS.Stream) : Script ε α → IO (Outcome ε α)
  | .done value => return .done value
  | .fail error => return .failed error
  | .abort => do
    IO.eprintln Program.abortMessage
    return .aborted
  | .write text onFailure rest => do
    if ← succeeds (output.putStr text) then perform input output rest
    else
      if onFailure.isNone then IO.eprintln "The output cannot be written"
      return .untaken onFailure
  | .readLine onFailure rest => do
    match Text.decode? (← nextLine input ByteArray.empty).toList with
    | some line => perform input output (rest line)
    | none => return .failed onFailure
  | .hasPath path rest => do
    perform input output (rest (← succeeds (discard (IO.FS.realPath path))))
  | .readFile path rest => do
    perform input output (rest (← readText path))
  | .makeDirectories path rest => do
    perform input output
      (rest (path.isEmpty || (← succeeds (IO.FS.createDirAll path))))
  | .writeFile path text rest => do
    perform input output (rest (← succeeds (IO.FS.writeFile path text)))

/-- What the system tells this run. -/
def surroundings (isTerminal : Bool) : IO Surroundings := do
  let environment := Environment.ofBlock (← readTextOrEmpty "/proc/self/environ")
  let status ← readTextOrEmpty "/proc/self/status"
  let accounts ← readTextOrEmpty "/etc/passwd"
  return {
    environment
    accountHome := (Account.userId? status).bind (Account.home? accounts)
    color := Surroundings.wantsColor environment isTerminal }

/-- Runs the program on its words. -/
def run (words : List String) : IO UInt32 := do
  let output ← IO.getStdout
  let surroundings ← surroundings (← output.isTty)
  match Program.plan surroundings words with
  | .answer text =>
    output.putStr text
    return 0
  | .refuse text exitCode =>
    IO.eprint text
    return exitCode.toUInt32
  | .run note script =>
    IO.eprint note
    let outcome ← perform (← IO.getStdin) output script
    let flushed ← succeeds output.flush
    let outcome := match outcome with
      | .done () => if flushed then outcome else .failed (Execution.ioError "flush stdout")
      | _ => outcome
    let ending := Program.conclude surroundings.color outcome
    IO.eprint ending.told
    return ending.exitCode.toUInt32

end PolishCalc.Main

/-- Runs the program and ends with its exit code. -/
def main (words : List String) : IO UInt32 :=
  PolishCalc.Main.run words

import PolishCalc.Host.FileTree
import PolishCalc.Host.Sink

/-!
# Scripts

What a command does to its surroundings is a value: a script is a tree of steps, each of which
writes a text, reads a line or asks for something about files, and ends with a result, an error, or
without any answer. A script is run on a `Machine` by `Script.run`; the program's main function runs
the same scripts on the real one.

A step that writes carries the error that the run ends with if the text cannot be written in full;
without one the run ends without an answer then. A step that reads a line carries the error for a
line that is not UTF-8.
-/

namespace PolishCalc

open Text (Bytes)

/-- Steps that end with a value of `α` or an error of `ε`. -/
inductive Script (ε α : Type) where
  | done (value : α)
  | fail (error : ε)
  /-- Ends without an answer: a number cannot be laid out with so many places. -/
  | abort
  | write (text : String) (onFailure : Option ε) (rest : Script ε α)
  /-- The line is read with its line feed; the end of the input is an empty line. -/
  | readLine (onFailure : ε) (rest : String → Script ε α)
  | hasPath (path : String) (rest : Bool → Script ε α)
  | readFile (path : String) (rest : Except ReadFault String → Script ε α)
  | makeDirectories (path : String) (rest : Bool → Script ε α)
  | writeFile (path text : String) (rest : Bool → Script ε α)

/-- How a run ends. -/
inductive Outcome (ε α : Type) where
  | done (value : α)
  | failed (error : ε)
  | aborted
  deriving DecidableEq

/-- How a run ends where a text is not taken in full: with the error for that, if there is one. -/
def Outcome.untaken {ε α : Type} : Option ε → Outcome ε α
  | some error => failed error
  | none => aborted

/-- What scripts run on: files, the input that is not yet read, and the output. -/
structure Machine where
  files : FileTree := {}
  input : Bytes := []
  output : Sink := {}

namespace Script

variable {ε ε' α β : Type}

/-- Goes on with another script where a script is done. -/
def bind : Script ε α → (α → Script ε β) → Script ε β
  | done value, next => next value
  | fail error, _ => fail error
  | abort, _ => abort
  | write text onFailure rest, next => write text onFailure (rest.bind next)
  | readLine onFailure rest, next => readLine onFailure fun line => (rest line).bind next
  | hasPath path rest, next => hasPath path fun answer => (rest answer).bind next
  | readFile path rest, next => readFile path fun answer => (rest answer).bind next
  | makeDirectories path rest, next => makeDirectories path fun answer => (rest answer).bind next
  | writeFile path text rest, next => writeFile path text fun answer => (rest answer).bind next

instance : Monad (Script ε) where
  pure := done
  bind := bind

/-- Changes the errors of a script. -/
def mapError (f : ε → ε') : Script ε α → Script ε' α
  | done value => done value
  | fail error => fail (f error)
  | abort => abort
  | write text onFailure rest => write text (onFailure.map f) (rest.mapError f)
  | readLine onFailure rest => readLine (f onFailure) fun line => (rest line).mapError f
  | hasPath path rest => hasPath path fun answer => (rest answer).mapError f
  | readFile path rest => readFile path fun answer => (rest answer).mapError f
  | makeDirectories path rest => makeDirectories path fun answer => (rest answer).mapError f
  | writeFile path text rest => writeFile path text fun answer => (rest answer).mapError f

/-- Writes a text. -/
def put (text : String) (onFailure : ε) : Script ε Unit :=
  write text (some onFailure) (done ())

/-- Writes a text that has to be taken: otherwise the run ends without an answer. -/
def insist (text : String) : Script ε Unit :=
  write text none (done ())

/-- Writes a text and ends the line. -/
def putLine (text : String) (onFailure : ε) : Script ε Unit :=
  put (text ++ "\n") onFailure

/-- Reads a line. -/
def getLine (onFailure : ε) : Script ε String :=
  readLine onFailure done

/-- Asks whether a path leads to a file or a directory. -/
def askPath (path : String) : Script ε Bool :=
  hasPath path done

/-- A result that is already known. -/
def ofExcept : Except ε α → Script ε α
  | .ok value => done value
  | .error error => fail error

/-- Runs a script to its end. -/
def run : Script ε α → Machine → Outcome ε α × Machine
  | done value, machine => (.done value, machine)
  | fail error, machine => (.failed error, machine)
  | abort, machine => (.aborted, machine)
  | write text onFailure rest, machine =>
    let (output, complete) := machine.output.write (Text.encode text)
    let machine := { machine with output }
    if complete then rest.run machine else (.untaken onFailure, machine)
  | readLine onFailure rest, machine =>
    let (line, unread) := Text.splitLine machine.input
    let machine := { machine with input := unread }
    match Text.decode? line with
    | some text => (rest text).run machine
    | none => (.failed onFailure, machine)
  | hasPath path rest, machine => (rest (machine.files.hasPath path)).run machine
  | readFile path rest, machine => (rest (machine.files.readText path)).run machine
  | makeDirectories path rest, machine =>
    let (files, made) := machine.files.makeDirectories path
    (rest made).run { machine with files }
  | writeFile path text rest, machine =>
    match machine.files.writeFile? path (Text.encode text) with
    | some files => (rest true).run { machine with files }
    | none => (rest false).run machine

/-- What is left to do after a part of a run. -/
def proceed (next : α → Script ε β) :
    Outcome ε α × Machine → Outcome ε β × Machine
  | (.done value, machine) => (next value).run machine
  | (.failed error, machine) => (.failed error, machine)
  | (.aborted, machine) => (.aborted, machine)

/-- A script that goes on with another one is run part by part. -/
theorem run_bind (script : Script ε α) (next : α → Script ε β) (machine : Machine) :
    (script.bind next).run machine = proceed next (script.run machine) := by
  induction script generalizing machine with
  | done value => rfl
  | fail error => rfl
  | abort => rfl
  | write text onFailure rest ih =>
    simp only [bind, run]
    split
    · exact ih _
    · cases onFailure with
      | none => rfl
      | some error => rfl
  | readLine onFailure rest ih =>
    simp only [bind, run]
    split
    · exact ih _ _
    · rfl
  | hasPath path rest ih => exact ih _ _
  | readFile path rest ih => exact ih _ _
  | makeDirectories path rest ih => exact ih _ _
  | writeFile path text rest ih =>
    simp only [bind, run]
    split
    · exact ih _ _
    · exact ih _ _

end Script

end PolishCalc

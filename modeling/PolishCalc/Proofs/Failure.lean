import PolishCalc.Program
import PolishCalc.Proofs.Agreement
import PolishCalc.Proofs.Creation
import PolishCalc.Proofs.Settings.Layers

/-!
# Failures are told once

A failure is decided in a command, but it is told in one of two places: the dialogue tells about
errors of the expression on the output, and the program about everything else on the error stream.

* **lines** — the error line and the hint line as they stand on the error stream, plain or in colour
  (`Program.errorLine`, `Program.hintLine`);
* **failures** — `Program.Failure`: an error with what the command has written by then, what is told
  on the error stream and the exit code;
* **commands** — `Program.Ends`: a run is done, or it fails in one of these ways. Each command ends
  so (`Execution.ends_eval`, `Execution.ends_interactive`, `Execution.ends_configInit` and others);
* **the program** — so every failure is told, and told once (`Program.failure_told_once`).
-/

namespace PolishCalc

open Text (Bytes encode)

/-- The commands that talk with the user. -/
def Invocation.isDialogue (invocation : Invocation) : Bool :=
  match invocation.command with
  | none | some .interactive => true
  | _ => false

namespace Program

/-- The line of an error. -/
def errorLine (color : Bool) (message : String) : String :=
  (if color then "\x1b[1;31merror\x1b[0m: " else "error: ") ++ message ++ "\n"

/-- The line of the hint. -/
def hintLine (color : Bool) : String :=
  (if color then "\x1b[33mhint\x1b[0m: " else "hint: ") ++ hintText ++ "\n"

theorem error_eq_errorLine (color : Bool) (message : String) :
    Console.error color message = errorLine color message := by
  have word : Console.painted color .boldRed "error" ++ ": " =
      if color then "\x1b[1;31merror\x1b[0m: " else "error: " := by
    cases color with
    | true => decide +kernel
    | false => decide +kernel
  rw [Console.error, word, errorLine]

theorem hint_eq_hintLine (color : Bool) : Console.hint color usageHint = hintLine color := by
  have word : Console.painted color .yellow "hint" ++ ": " =
      if color then "\x1b[33mhint\x1b[0m: " else "hint: " := by
    cases color with
    | true => decide +kernel
    | false => decide +kernel
  rw [Console.hint, word, usageHint_eq, hintLine]

/-- How a failure shows, in the dialogue or in another command: the error that the command ends
with, the text that it has written, and the ending of the program. -/
inductive Failure (color : Bool) : (dialogue : Bool) → CommandError → String → Ending → Prop
  /-- An expression is refused: the error stream has the error and the hint, the output nothing. -/
  | refused (cause : ExprError) :
      Failure color false (.application (.expression cause)) ""
        { told := errorLine color cause.message ++ hintLine color, exitCode := 65 }
  /-- The dialogue refuses an expression: after what it has said and an empty line, the output ends
  with the error and the hint, and the error stream has nothing. -/
  | answered (cause : ExprError) (last : String) :
      (last = "Enter your prefix expression:" ∨
        ∃ sample, last = "Using the default expression: " ++ sample) →
      Failure color true (.reported (.expression cause))
        (unlines (Dialogue.opening ++ [last, "", "Error: " ++ cause.message, hintText]))
        { told := "", exitCode := 65 }
  /-- A configuration is refused before anything is written. -/
  | misconfigured (dialogue : Bool) (message : String) :
      Failure color dialogue (.application (.config message)) ""
        { told := errorLine color ("config error: " ++ message), exitCode := 78 }
  /-- The input of the dialogue is no text: the output has only the prompts up to there. -/
  | unheard (prompts : List String) :
      (prompts = Dialogue.opening ∨
        prompts = Dialogue.opening ++ ["Enter your prefix expression:"]) →
      Failure color true (.application (.io "read input")) (unlines prompts)
        { told := errorLine color "I/O error: read input", exitCode := 74 }
  /-- A file or a directory cannot be made. -/
  | unmade (context : String) :
      Failure color false (.application (.io context)) ""
        { told := errorLine color ("I/O error: " ++ context), exitCode := 74 }
  /-- The arguments do not fit. -/
  | misused (reason : String) :
      Failure color false (.invalidArguments reason) ""
        { told := errorLine color ("invalid arguments: " ++ reason), exitCode := 64 }

/-- A run of a command, begun on a machine, is done, or it fails and the failure shows as it
should. -/
structure Ends (color dialogue : Bool) (machine : Machine)
    (result : Outcome CommandError Unit × Machine) : Prop where
  shown : ∃ text, result.2.output.written = machine.output.written ++ encode text ∧
    (result.1 = .done () ∨
      ∃ error, result.1 = .failed error ∧ Failure color dialogue error text (fail color error))

variable {color dialogue : Bool} {machine : Machine}

theorem Ends.done {text : String} {left : Machine}
    (written : left.output.written = machine.output.written ++ encode text) :
    Ends color dialogue machine (.done (), left) :=
  ⟨⟨text, written, .inl rfl⟩⟩

theorem Ends.failed {text : String} {error : CommandError} {left : Machine}
    (written : left.output.written = machine.output.written ++ encode text)
    (failure : Failure color dialogue error text (fail color error)) :
    Ends color dialogue machine (.failed error, left) :=
  ⟨⟨text, written, .inr ⟨error, rfl, failure⟩⟩⟩

/-- What is written by a failure that comes before everything. -/
theorem written_nothing {left : Machine} (same : left.output = machine.output) :
    left.output.written = machine.output.written ++ encode "" := by
  rw [same]
  exact (List.append_nil _).symm

/-- An error that is neither of the expression nor told by the dialogue shows without a hint. -/
theorem fail_plain {error : CommandError} (untold : error.isReported = false)
    (foreign : error.needsUsageHint = false) (color : Bool) :
    fail color error =
      { told := errorLine color error.message, exitCode := error.exitCode.toNat } := by
  simp [fail, untold, foreign, error_eq_errorLine]

/-- An error of the expression that nobody has told about shows with the hint. -/
theorem fail_expression (cause : ExprError) (color : Bool) :
    fail color (.application (.expression cause)) =
      { told := errorLine color cause.message ++ hintLine color, exitCode := 65 } := by
  rw [← error_eq_errorLine, ← hint_eq_hintLine]
  rfl

end Program

namespace Execution

open Program (Ends Failure)

variable {color dialogue : Bool} {settings : Settings} {machine : Machine}

/-- Errors of the expression are the only ones that running an expression has. -/
theorem ends_refused (cause : ExprError) :
    Ends color false machine (.failed (expressionError cause), machine) := by
  refine .failed (Program.written_nothing rfl) ?_
  rw [expressionError, Program.fail_expression]
  exact .refused cause

theorem ends_misconfigured (cause : ConfigError) :
    Ends color dialogue machine (.failed (.application (Settings.refuse cause)), machine) := by
  refine .failed (Program.written_nothing rfl) ?_
  rw [Program.fail_plain rfl rfl]
  exact .misconfigured dialogue cause.message

section Unlimited

variable (unlimited : machine.output.room = none)
include unlimited

theorem ends_completion (surroundings : Surroundings) (shell : Shell) :
    Ends color false machine ((completion surroundings shell).run machine) := by
  rw [completion, Script.insist, Script.run_write unlimited]
  exact .done rfl

theorem ends_render (expression : String) (order : Order) :
    Ends color false machine ((render settings expression order).run machine) := by
  rw [run_render unlimited]
  cases rendering settings expression order with
  | ok text => exact .done rfl
  | error cause => exact ends_refused cause

theorem ends_tree (expression : String) :
    Ends color false machine ((tree settings expression).run machine) := by
  rw [run_tree unlimited]
  cases drawing settings expression with
  | ok text => exact .done rfl
  | error cause => exact ends_refused cause

theorem ends_configShow : Ends color false machine ((configShow settings).run machine) := by
  rw [run_ofText unlimited (trace_configShow settings machine.files machine.input)]
  cases settings.toToml with
  | ok text => exact .done rfl
  | error cause => exact ends_misconfigured cause

theorem ends_eval (printable : settings.Printable) (expression : Option String) :
    Ends color false machine ((eval settings expression).run machine) := by
  rw [run_eval unlimited printable]
  rcases runExpression_cases settings (chosen settings expression) with
    ⟨cause, refused⟩ | ⟨report, success⟩
  · rw [refused]
    exact ends_refused cause
  · rw [success]
    exact .done rfl

/-- The dialogue runs an expression after it has said three lines and an empty one. -/
theorem ends_conversation (printable : settings.Printable) {consumed unread : Bytes}
    {expression last : String}
    (conversation : Dialogue.Conversation settings consumed unread
      (.ofExcept (runExpression settings expression))
      (unlines (Dialogue.opening ++ [last, ""]) ++ response settings expression))
    (given : machine.input = consumed ++ unread)
    (asked : last = "Enter your prefix expression:" ∨
      ∃ sample, last = "Using the default expression: " ++ sample) :
    Ends color true machine ((interactive settings).run machine) := by
  rw [run_interactive printable conversation unlimited given]
  rcases runExpression_cases settings expression with ⟨cause, refused⟩ | ⟨report, success⟩
  · rw [refused]
    refine .failed ?_ (.answered cause last asked)
    rw [← unlines_append]
    rfl
  · rw [success]
    exact .done rfl

theorem ends_interactive (printable : settings.Printable) :
    Ends color true machine ((interactive settings).run machine) := by
  -- a line that is no text ends the dialogue with the prompts before it
  have unheard {consumed unread : Bytes} {prompts : List String}
      (conversation : Dialogue.Conversation settings consumed unread (.failed (.io "read input"))
        (unlines prompts))
      (given : machine.input = consumed ++ unread)
      (said : prompts = Dialogue.opening ∨
        prompts = Dialogue.opening ++ ["Enter your prefix expression:"]) :
      Ends color true machine ((interactive settings).run machine) := by
    rw [interactive, Script.bind_eq, Script.run_bind, Script.run_mapError,
      conversation.run_eq printable unlimited given]
    refine .failed rfl ?_
    rw [Program.fail_plain rfl rfl]
    exact .unheard prompts said
  obtain ⟨consumed, unread, outcome, text, given, conversation⟩ :=
    Dialogue.exists_conversation settings machine.input
  cases id conversation with
  | unclear first decoded => exact unheard conversation given (.inl rfl)
  | garbled first decoded agrees second decoded' => exact unheard conversation given (.inr rfl)
  | declined first decoded differs =>
      exact ends_conversation unlimited printable conversation given (.inr ⟨_, rfl⟩)
  | accepted first decoded agrees second decoded' =>
      exact ends_conversation unlimited printable conversation given (.inl rfl)

theorem ends_configPath (surroundings : Surroundings) (explicit : Option String) :
    Ends color false machine ((configPath surroundings explicit).run machine) := by
  have ended : ((configPath surroundings explicit).trace machine.files machine.input).outcome =
      .done () := by
    unfold configPath
    cases surroundings.globalConfig? with
    | none => cases explicit with
      | none => rfl
      | some path => rfl
    | some path => cases explicit with
      | none => rfl
      | some path => rfl
  rw [Script.run_unlimited unlimited]
  simp only [ended]
  exact .done rfl

theorem ends_configInit (surroundings : Surroundings) (explicit : Option String) (force : Bool) :
    Ends color false machine ((configInit surroundings explicit force).run machine) := by
  have misused {reason : String} :
      Ends color false machine (.failed (.invalidArguments reason), machine) := by
    refine .failed (Program.written_nothing rfl) ?_
    rw [Program.fail_plain rfl rfl]
    exact .misused reason
  have unmade {context : String} {files : FileTree} :
      Ends color false machine (.failed (ioError context), { machine with files }) := by
    refine .failed (Program.written_nothing rfl) ?_
    rw [Program.fail_plain rfl rfl]
    exact .unmade context
  have creation := creation_run surroundings explicit force machine
  generalize (configInit surroundings explicit force).run machine = result at creation ⊢
  cases creation with
  | homeless missing => exact misused
  | taken found present careful => exact misused
  | unreachable found allowed parents => exact unmade
  | unwritable found allowed parents stored => exact unmade
  | @written path files files' found allowed parents stored =>
      have unlimited : ({ machine with files := files' } : Machine).output.room = none := unlimited
      rw [announceCreation, Script.run_put unlimited]
      exact .done rfl

end Unlimited

end Execution

namespace Invocation

open Program (Ends)

variable {color dialogue : Bool} {invocation : Invocation} {machine : Machine}

/-- A command that needs settings fails as loading them fails, or ends as it does with them. -/
theorem ends_action {action : Settings → Script CommandError Unit}
    (needs : action? invocation.command = some action) {surroundings : Surroundings}
    (printable : ∀ loaded,
      ((Settings.load surroundings invocation.config).run machine).1 = .done loaded →
      loaded.Printable)
    (ends : ∀ settings : Settings, settings.Printable →
      Ends color dialogue machine ((action settings).run machine)) :
    Ends color dialogue machine ((invocation.execute surroundings).run machine) := by
  rcases Settings.load_cases surroundings invocation.config machine with
    ⟨loaded, success⟩ | ⟨cause, refused⟩
  · rw [run_action needs success]
    -- the strict option does not touch the number of places
    have same : (invocation.effective loaded).Printable :=
      printable loaded (congrArg Prod.fst success)
    exact ends _ same
  · rw [run_action_refused needs refused]
    exact Execution.ends_misconfigured cause

theorem ends_execute (unlimited : machine.output.room = none) (surroundings : Surroundings)
    (printable : ∀ loaded,
      ((Settings.load surroundings invocation.config).run machine).1 = .done loaded →
      loaded.Printable) :
    Ends color invocation.isDialogue machine ((invocation.execute surroundings).run machine) := by
  obtain ⟨debug, config, strict, command⟩ := invocation
  cases command with
  | none =>
      exact ends_action rfl printable fun settings printable =>
        Execution.ends_interactive unlimited printable
  | some command =>
      cases command with
      | eval expression =>
          exact ends_action rfl printable fun settings printable =>
            Execution.ends_eval unlimited printable expression
      | render expression order =>
          exact ends_action rfl printable fun settings _ =>
            Execution.ends_render unlimited expression order
      | tree expression =>
          exact ends_action rfl printable fun settings _ =>
            Execution.ends_tree unlimited expression
      | interactive =>
          exact ends_action rfl printable fun settings printable =>
            Execution.ends_interactive unlimited printable
      | configShow =>
          exact ends_action rfl printable fun settings _ => Execution.ends_configShow unlimited
      | configPath => exact Execution.ends_configPath unlimited surroundings config
      | configInit force => exact Execution.ends_configInit unlimited surroundings config force
      | completion shell => exact Execution.ends_completion unlimited surroundings shell

end Invocation

namespace Program

/-- A command line that is understood runs its script, and what is told about the debug flag is
nothing unless it was given too often. -/
theorem run_parsed {words : List String} {invocation : Invocation}
    (parsed : CommandLine.parse words = .ok invocation) (few : invocation.debug ≤ maxDebug)
    (surroundings : Surroundings) (machine : Machine) :
    run surroundings words machine =
      (conclude surroundings.color ((invocation.execute surroundings).run machine).1,
        ((invocation.execute surroundings).run machine).2) := by
  simp [run, plan, parsed, debugNote, few]

/-- Whatever is run, it is done and nothing is told on the error stream, or it fails and the failure
shows once. -/
theorem failure_told_once {surroundings : Surroundings} {words : List String}
    {invocation : Invocation} {machine : Machine}
    (parsed : CommandLine.parse words = .ok invocation) (few : invocation.debug ≤ 3)
    (unlimited : machine.output.room = none)
    (printable : ∀ loaded,
      ((Settings.load surroundings invocation.config).run machine).1 = .done loaded →
      ∀ places, loaded.precision = some places → places ≤ 65535) :
    ∃ outcome left ending text,
      (invocation.execute surroundings).run machine = (outcome, left) ∧
      run surroundings words machine = (ending, left) ∧
      left.output.written = machine.output.written ++ encode text ∧
      (outcome = .done () ∧ ending = { told := "", exitCode := 0 } ∨
        ∃ error, outcome = .failed error ∧
          Failure surroundings.color invocation.isDialogue error text ending) := by
  have ran := run_parsed parsed few surroundings machine
  have ends : Ends surroundings.color invocation.isDialogue machine
      ((invocation.execute surroundings).run machine) :=
    invocation.ends_execute unlimited surroundings printable
  obtain ⟨text, written, ended⟩ := ends.shown
  refine ⟨_, _, _, text, rfl, ran, written, ?_⟩
  rcases ended with done | ⟨error, failed, failure⟩
  · rw [done]
    exact .inl ⟨rfl, rfl⟩
  · rw [failed]
    exact .inr ⟨error, rfl, failure⟩

/-- A sum that lacks an operand, and a configuration file that is malformed. In the dialogue the
error is on the output; given as an argument it is on the error stream, here in colour. The file is
told with what is wrong with it. -/
theorem failure_told_once_each :
    (let machine : Machine := { input := encode "y\n+1\n" }
      ∃ left, run {} [] machine = ({ told := "", exitCode := 65 }, left) ∧
        ∃ last, left.output.written = encode (unlines
          (Dialogue.opening ++ [last, "", "Error: Underflow", hintText]))) ∧
    (∃ left, run { color := true } ["eval", "+1"] {} =
        ({ told := "\x1b[1;31merror\x1b[0m: Underflow\n\x1b[33mhint\x1b[0m: Please make sure " ++
            "your expression is a valid prefix expression using single digits (0-9) and " ++
            "operators (+, -, *, /).\n"
           exitCode := 65 }, left) ∧
      left.output.written = []) ∧
    ∀ diagnosis : Diagnosis,
      let machine : Machine := { files := FileTree.put {} ["b"] (some (.file (encode "strict"))) }
      ∃ left, run { diagnosis } ["-c", "b", "tree", "1"] machine =
          ({ told := "error: config error: parse b: " ++ diagnosis "strict" ++ "\n"
             exitCode := 78 }, left) ∧
        left.output.written = [] := by
  -- a failure on a fresh output shows as the error does
  have shown {surroundings : Surroundings} {words : List String} {invocation : Invocation}
      {machine : Machine} {error : CommandError}
      (parsed : CommandLine.parse words = .ok invocation) (few : invocation.debug ≤ 3)
      (fresh : machine.output = {})
      (settled : ∀ loaded,
        ((Settings.load surroundings invocation.config).run machine).1 = .done loaded →
        loaded = .default)
      (fails : ((invocation.execute surroundings).run machine).1 = .failed error) :
      ∃ left ending text, run surroundings words machine = (ending, left) ∧
        left.output.written = encode text ∧
        Failure surroundings.color invocation.isDialogue error text ending := by
    have unlimited : machine.output.room = none := by rw [fresh]
    have printable : ∀ loaded,
        ((Settings.load surroundings invocation.config).run machine).1 = .done loaded →
        ∀ places, loaded.precision = some places → places ≤ 65535 := by
      intro loaded success
      rw [settled loaded success]
      exact nofun
    obtain ⟨outcome, left, ending, text, executed, ran, written, ended⟩ :=
      failure_told_once parsed few unlimited printable
    rw [executed] at fails
    rw [fresh] at written
    rcases ended with ⟨done, _⟩ | ⟨error, failed, failure⟩
    · exact nomatch fails.symm.trans done
    · obtain rfl := Outcome.failed.inj (failed.symm.trans fails)
      exact ⟨left, ending, text, ran, written, failure⟩
  refine ⟨?_, ?_, ?_⟩
  · intro machine
    have loading : ((Settings.load {} none).run machine).1 = .done .default := rfl
    have fails : ((Invocation.execute {} {}).run machine).1 =
        .failed (.reported (.expression (.stackUnderflow '+' 0))) := by decide +kernel
    obtain ⟨left, ending, text, ran, written, failure⟩ :=
      @shown {} [] {} machine _ rfl (by decide) rfl
        (fun loaded success => Outcome.done.inj (success.symm.trans loading)) fails
    cases failure with
    | answered cause last asked => exact ⟨left, ran, last, written⟩
  · let invocation : Invocation := { command := some (.eval (some "+1")) }
    have loading : ((Settings.load { color := true } none).run {}).1 = .done .default := rfl
    have fails : ((invocation.execute { color := true }).run {}).1 =
        .failed (.application (.expression (.stackUnderflow '+' 0))) := by decide +kernel
    obtain ⟨left, ending, text, ran, written, failure⟩ :=
      @shown { color := true } ["eval", "+1"] invocation {} _ (by decide +kernel) (by decide) rfl
        (fun loaded success => Outcome.done.inj (success.symm.trans loading)) fails
    cases failure with
    | refused cause =>
        refine ⟨left, ?_, written⟩
        rw [ran, Prod.mk.injEq, Ending.mk.injEq]
        exact ⟨⟨by decide +kernel, rfl⟩, rfl⟩
  · intro diagnosis machine
    let invocation : Invocation := { config := some "b", command := some (.tree "1") }
    have refused : (Settings.load { diagnosis } (some "b")).run machine = _ :=
      Settings.load_malformed rfl (by decide +kernel : machine.files.readText "b" = .ok "strict")
        (by decide +kernel)
    have fails : ((invocation.execute { diagnosis }).run machine).1 =
        .failed (.application (.config ("parse b: " ++ diagnosis "strict"))) := by
      rw [Invocation.run_action_refused rfl refused]
      rfl
    obtain ⟨left, ending, text, ran, written, failure⟩ :=
      @shown { diagnosis } ["-c", "b", "tree", "1"] invocation machine _ (by decide +kernel)
        (by decide) rfl (fun loaded success => by rw [refused] at success; cases success) fails
    cases failure with
    | misconfigured dialogue message =>
        have joined : "config error: " ++ ("parse b: " ++ diagnosis "strict") =
            "config error: parse b: " ++ diagnosis "strict" := by
          rw [← String.append_assoc]
          rfl
        refine ⟨left, ?_, written⟩
        rw [ran, joined, errorLine, ← String.append_assoc]
        rfl

end Program

end PolishCalc

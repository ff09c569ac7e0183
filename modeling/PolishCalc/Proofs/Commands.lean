import PolishCalc.Proofs.Dialogue
import PolishCalc.Proofs.Settings.Effective
import PolishCalc.Proofs.Settings.Shown

/-!
# What commands write

* **one text** — a rendering, a drawing or the settings are written in one piece, if they exist
  (`Execution.trace_render`, `Execution.trace_tree`, `Execution.trace_configShow`);
* **many lines** — a report is written line by line (`Execution.trace_eval`), and so is a
  conversation (`Execution.trace_interactive`);
* **runs** — on an output without a limit a command writes what it has (`Execution.run_render`,
  `Execution.run_tree`, `Execution.run_eval`), and the dialogue the same after its own lines
  (`Execution.run_interactive`);
* **invocations** — the settings are loaded before anything is written or read
  (`Invocation.trace_execute`).
-/

namespace PolishCalc

open Text (Bytes)

/-- The trace of writing a text in one piece, if there is one. -/
def Trace.ofText {ε : Type} (result : Except ε String) (onFailure : ε) (files : FileTree)
    (unread : Bytes) : Trace ε Unit :=
  match result with
  | .ok text =>
    { segments := [{ text, onFailure := some onFailure, files, unread }]
      outcome := .done (), files, unread }
  | .error cause => { outcome := .failed cause, files, unread }

/-- The trace without its result. -/
def Trace.void {ε α : Type} (trace : Trace ε α) : Trace ε Unit :=
  trace.andThen fun _ files unread => { outcome := .done (), files, unread }

theorem Trace.segments_void {ε α : Type} (trace : Trace ε α) :
    trace.void.segments = trace.segments := by
  obtain ⟨segments, outcome, files, unread⟩ := trace
  cases outcome with
  | done value => exact List.append_nil segments
  | failed error => rfl
  | aborted => rfl

namespace Execution

/-- An error of the expression that ends a command. -/
def expressionError (cause : ExprError) : CommandError :=
  .application (.expression cause)

/-- An expression in one order, read without the blanks around it. -/
def rendering (settings : Settings) (expression : String) (order : Order) :
    Except ExprError String := do
  (← Tree.read settings.strict (Text.trim expression)).render order

/-- The drawing of an expression, read without the blanks around it. -/
def drawing (settings : Settings) (expression : String) : Except ExprError String := do
  (← Tree.read settings.strict (Text.trim expression)).drawingText

/-- What is run: the expression without the blanks around it, or the sample as it is. -/
def chosen (settings : Settings) (expression : Option String) : String :=
  (expression.map Text.trim).getD settings.sample

/-! ## Traces -/

/-- The trace of writing the report on an expression. -/
def evaluation (settings : Settings) (files : FileTree) (unread : Bytes)
    (expression : Option String) : Trace CommandError Unit :=
  match runExpression settings (chosen settings expression) with
  | .ok report =>
    { segments := Segment.ofLines (ioError "write report") files unread
        (report.lines settings.precision)
      outcome := report.ending settings.precision (), files, unread }
  | .error cause => { outcome := .failed (.application cause), files, unread }

section Traces

variable (settings : Settings) (files : FileTree) (unread : Bytes)

theorem trace_render (expression : String) (order : Order) :
    (render settings expression order).trace files unread =
      .ofText (((rendering settings expression order).map Console.info).mapError expressionError)
        (ioError "write rendering") files unread := by
  rw [render, rendering]
  cases Tree.read settings.strict (Text.trim expression) with
  | error cause => rfl
  | ok tree =>
      show (Script.bind (ofExpr (tree.render order)) _).trace files unread =
        .ofText (((tree.render order).map Console.info).mapError expressionError) _ files unread
      cases tree.render order with
      | error cause => rfl
      | ok text => rfl

theorem trace_tree (expression : String) :
    (tree settings expression).trace files unread =
      .ofText ((drawing settings expression).mapError expressionError) (ioError "write tree")
        files unread := by
  rw [tree, drawing]
  cases Tree.read settings.strict (Text.trim expression) with
  | error cause => rfl
  | ok tree =>
      show (Script.bind (ofExpr tree.drawingText) _).trace files unread =
        .ofText (tree.drawingText.mapError expressionError) _ files unread
      cases tree.drawingText with
      | error cause => rfl
      | ok text => rfl

theorem trace_configShow :
    (configShow settings).trace files unread =
      .ofText ((settings.toToml.map Console.info).mapError fun cause =>
        .application (Settings.refuse cause)) (ioError "write settings") files unread := by
  rw [configShow]
  cases settings.toToml with
  | error cause => rfl
  | ok text => rfl

theorem trace_eval (expression : Option String) :
    (eval settings expression).trace files unread =
      evaluation settings files unread expression := by
  rw [eval, evaluation, chosen]
  cases runExpression settings ((expression.map Text.trim).getD settings.sample) with
  | error cause => rfl
  | ok report => exact report.trace_print settings.precision _ files unread

theorem trace_interactive :
    (interactive settings).trace files unread =
      ((Dialogue.course settings files unread).mapError dialogueError).void := by
  rw [interactive, Script.bind_eq, Script.trace_bind, Script.trace_mapError,
    Dialogue.trace_runInteractive]
  rfl

end Traces

/-! ## Runs -/

/-- How a run ends that writes a text, if there is one. -/
def delivered {ε : Type} (result : Except ε String) (machine : Machine) :
    Outcome ε Unit × Machine :=
  match result with
  | .ok text => (.done (), machine.afterWriting text)
  | .error cause => (.failed cause, machine)

section Runs

variable {settings : Settings} {machine : Machine} (unlimited : machine.output.room = none)
include unlimited

/-- A script that reads nothing and leaves the files as they are only writes. -/
theorem run_of_trace {ε α : Type} {script : Script ε α} {segments : List (Segment ε)}
    {outcome : Outcome ε α}
    (traced : script.trace machine.files machine.input =
      { segments, outcome, files := machine.files, unread := machine.input }) :
    script.run machine = (outcome, machine.afterWriting (Segment.transcript segments)) := by
  rw [Script.run_unlimited unlimited, traced]
  rfl

theorem run_ofText {ε : Type} {script : Script ε Unit} {result : Except ε String} {onFailure : ε}
    (traced : script.trace machine.files machine.input =
      .ofText result onFailure machine.files machine.input) :
    script.run machine = delivered result machine := by
  cases result with
  | ok text => rw [run_of_trace unlimited traced, Segment.transcript_singleton, delivered]
  | error cause =>
      rw [run_of_trace unlimited traced, Segment.transcript_nil, Machine.afterWriting_empty,
        delivered]

theorem run_render (expression : String) (order : Order) :
    (render settings expression order).run machine =
      delivered (((rendering settings expression order).map Console.info).mapError expressionError)
        machine :=
  run_ofText unlimited (trace_render settings _ _ expression order)

theorem run_tree (expression : String) :
    (tree settings expression).run machine =
      delivered ((drawing settings expression).mapError expressionError) machine :=
  run_ofText unlimited (trace_tree settings _ _ expression)

theorem run_eval (printable : settings.Printable) (expression : Option String) :
    (eval settings expression).run machine =
      match runExpression settings (chosen settings expression) with
      | .ok report =>
        (.done (), machine.afterWriting (unlines (report.lines settings.precision)))
      | .error cause => (.failed (.application cause), machine) := by
  have traced := trace_eval settings machine.files machine.input expression
  rw [evaluation] at traced
  cases run : runExpression settings (chosen settings expression) with
  | ok report =>
      obtain ⟨text, written⟩ := exists_formatValue printable report.value
      rw [run] at traced
      rw [run_of_trace unlimited traced, Segment.transcript_ofLines, Report.ending, written]
      rfl
  | error cause =>
      rw [run] at traced
      rw [run_of_trace unlimited traced, Segment.transcript_nil, Machine.afterWriting_empty]

end Runs

/-- In the dialogue the same is written after its own lines, or the error and the hint. -/
theorem run_interactive {settings : Settings} (printable : settings.Printable)
    {consumed unread : Bytes} {expression : String} {opening : List String}
    (conversation : Dialogue.Conversation settings consumed unread
      (.ofExcept (runExpression settings expression))
      (unlines opening ++ response settings expression))
    {machine : Machine} (unlimited : machine.output.room = none)
    (given : machine.input = consumed ++ unread) :
    (interactive settings).run machine =
      match runExpression settings expression with
      | .ok report =>
        (.done (),
          { machine.afterWriting
              (unlines opening ++ unlines (report.lines settings.precision)) with
            input := unread })
      | .error cause =>
        (.failed (dialogueError cause),
          { machine.afterWriting
              (unlines opening ++ unlines ["Error: " ++ cause.message, hintText]) with
            input := unread }) := by
  have ran := conversation.run_eq printable unlimited given
  rw [interactive, Script.bind_eq, Script.run_bind, Script.run_mapError, ran, response]
  cases runExpression settings expression with
  | ok report => rfl
  | error cause => rfl

end Execution

namespace Invocation

/-- A command that needs settings writes what it does with the loaded ones. If loading fails, it
writes nothing. -/
theorem trace_execute {invocation : Invocation} {action : Settings → Script CommandError Unit}
    (needs : action? invocation.command = some action) (surroundings : Surroundings)
    (files : FileTree) (unread : Bytes) :
    (invocation.execute surroundings).trace files unread =
      match ((Settings.load surroundings invocation.config).run { files, input := unread }).1 with
      | .done loaded => (action (invocation.effective loaded)).trace files unread
      | .failed cause => { outcome := .failed (.application cause), files, unread }
      | .aborted => { outcome := .aborted, files, unread } := by
  have asks := Settings.inquires_load surroundings invocation.config
  rw [execute_action needs, Script.trace_bind, settings, Script.bind_eq, Script.trace_bind,
    Script.trace_mapError, asks.trace_eq files unread]
  cases ((Settings.load surroundings invocation.config).run { files, input := unread }).1 with
  | done loaded => rfl
  | failed cause => rfl
  | aborted => rfl

end Invocation

end PolishCalc

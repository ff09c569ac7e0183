import PolishCalc.Report
import PolishCalc.Proofs.Trace

/-!
# What a report writes

* **places** — results can be written with up to 65535 places (`exists_formatValue`);
* **lines** — a report writes its lines one by one, and stops before the last one if the value
  cannot be written (`Report.trace_print`);
* **verdicts** — running an expression writes its report, or the error and the hint
  (`trace_runAndReport`).
-/

namespace PolishCalc

open Text (Bytes encode)

/-- The number of places, if there is one, is one that results can be written with. -/
def Settings.Printable (settings : Settings) : Prop :=
  ∀ places, settings.precision = some places → places ≤ 65535

/-- Lines one after the other, each with its line feed. -/
def unlines (lines : List String) : String :=
  String.join (lines.map (· ++ "\n"))

theorem Segment.transcript_ofLines {ε : Type} (onFailure : ε) (files : FileTree) (unread : Bytes)
    (lines : List String) : transcript (ofLines onFailure files unread lines) = unlines lines := by
  rw [transcript, ofLines, List.map_map]
  rfl

theorem unlines_append (earlier later : List String) :
    unlines (earlier ++ later) = unlines earlier ++ unlines later := by
  rw [unlines, List.map_append, String.join_append, unlines, unlines]

/-- The end of a run whose result is already known. -/
def Outcome.ofExcept {ε α : Type} : Except ε α → Outcome ε α
  | .ok value => .done value
  | .error error => .failed error

/-- A value can be written with up to 65535 places. -/
theorem exists_formatValue {settings : Settings} (printable : settings.Printable)
    (value : Float) : ∃ text, formatValue value settings.precision = some text := by
  rw [formatValue, Decimal.Layout.text?.eq_def]
  split
  · exact ⟨_, rfl⟩
  · exact ⟨_, rfl⟩
  · split
    · exact ⟨_, rfl⟩
    · next places asked =>
      have few : ¬ resultLayout.maxPlaces < places := Nat.not_lt.mpr (printable places asked)
      rw [if_neg few]
      exact ⟨_, rfl⟩

namespace Report

/-- The lines of a report; the last one is missing if the value cannot be written. -/
def lines (report : Report) (precision : Option Nat) : List String :=
  ["Prefix form: " ++ report.prefixForm, "", "Infix form: " ++ report.infixForm, "",
    "Postfix form: " ++ report.postfixForm, ""] ++
    ((formatValue report.value precision).map fun value =>
      "Result for the expression " ++ report.expression ++ " is: " ++ value).toList

/-- How writing a report ends. -/
def ending {ε α : Type} (report : Report) (precision : Option Nat) (value : α) : Outcome ε α :=
  if (formatValue report.value precision).isSome then .done value else .aborted

theorem trace_print {ε : Type} (report : Report) (precision : Option Nat) (onFailure : ε)
    (files : FileTree) (unread : Bytes) :
    (report.print precision onFailure).trace files unread =
      { segments := Segment.ofLines onFailure files unread (report.lines precision)
        outcome := report.ending precision (), files, unread } := by
  cases text : formatValue report.value precision with
  | some text => simp only [print, resultLine?, lines, ending, text]; rfl
  | none => simp only [print, resultLine?, lines, ending, text]; rfl

end Report

/-- What running an expression writes and how it ends. -/
def verdict (settings : Settings) (expression : String) (files : FileTree) (unread : Bytes) :
    Trace RunError Report :=
  match runExpression settings expression with
  | .ok report =>
    { segments := Segment.ofLines (.io "write report") files unread
        (report.lines settings.precision)
      outcome := report.ending settings.precision report, files, unread }
  | .error cause =>
    { segments := Segment.ofLines (.io "write error") files unread
        ["Error: " ++ cause.message, usageHint]
      outcome := .failed cause, files, unread }

/-- The hint that follows every error of an expression. -/
def hintText : String :=
  "Please make sure your expression is a valid prefix expression " ++
    "using single digits (0-9) and operators (+, -, *, /)."

theorem usageHint_eq : usageHint = hintText := by decide +kernel

/-- What running an expression writes: the report, or the error and the hint. -/
def response (settings : Settings) (expression : String) : String :=
  match runExpression settings expression with
  | .ok report => unlines (report.lines settings.precision)
  | .error cause => unlines ["Error: " ++ cause.message, hintText]

theorem transcript_verdict (settings : Settings) (expression : String) (files : FileTree)
    (unread : Bytes) :
    Segment.transcript (verdict settings expression files unread).segments =
      response settings expression := by
  rw [verdict, response, usageHint_eq]
  cases runExpression settings expression with
  | ok report => exact Segment.transcript_ofLines _ _ _ _
  | error cause => exact Segment.transcript_ofLines _ _ _ _

theorem files_verdict (settings : Settings) (expression : String) (files : FileTree)
    (unread : Bytes) :
    (verdict settings expression files unread).files = files ∧
      (verdict settings expression files unread).unread = unread := by
  rw [verdict]
  cases runExpression settings expression with
  | ok report => exact ⟨rfl, rfl⟩
  | error cause => exact ⟨rfl, rfl⟩

/-- Each segment is one of the report or of the error. -/
theorem of_mem_verdict {settings : Settings} {expression : String} {files : FileTree}
    {unread : Bytes} {segment : Segment RunError}
    (member : segment ∈ (verdict settings expression files unread).segments) :
    segment.onFailure ∈ [some (.io "write report"), some (.io "write error")] ∧
      segment.unread = unread := by
  rw [verdict] at member
  cases run : runExpression settings expression with
  | ok report =>
      rw [run] at member
      obtain ⟨context, _, left⟩ := Segment.of_mem_ofLines member
      exact ⟨by simp [context], left⟩
  | error cause =>
      rw [run] at member
      obtain ⟨context, _, left⟩ := Segment.of_mem_ofLines member
      exact ⟨by simp [context], left⟩

theorem answered_verdict (settings : Settings) (expression : String) (files : FileTree)
    (unread : Bytes) : Segment.Answered (verdict settings expression files unread).segments := by
  rw [verdict]
  cases runExpression settings expression with
  | ok report => exact Segment.answered_ofLines _ _ _ _
  | error cause => exact Segment.answered_ofLines _ _ _ _

/-- With a number of places that can be written, the run ends as the expression does. -/
theorem outcome_verdict {settings : Settings} (printable : settings.Printable)
    (expression : String) (files : FileTree) (unread : Bytes) :
    (verdict settings expression files unread).outcome =
      .ofExcept (runExpression settings expression) := by
  rw [verdict]
  cases runExpression settings expression with
  | ok report =>
      obtain ⟨text, written⟩ := exists_formatValue printable report.value
      simp only [Report.ending, written, Option.isSome_some, if_true, Outcome.ofExcept]
  | error cause => rfl

theorem trace_runAndReport (settings : Settings) (expression : String) (files : FileTree)
    (unread : Bytes) :
    (runAndReport settings expression).trace files unread =
      verdict settings expression files unread := by
  rw [runAndReport, verdict]
  cases runExpression settings expression with
  | error cause => rfl
  | ok report =>
      show (Script.bind _ _).trace files unread = _
      rw [Script.trace_bind, Report.trace_print]
      simp only [Report.ending]
      split
      · simp only [Trace.andThen, pure, Script.trace, List.append_nil]
      · rfl

end PolishCalc

import PolishCalc.Proofs.NormalForm
import PolishCalc.Proofs.Settings.Layers
import PolishCalc.Proofs.Truncation

/-!
# Runs without an answer

A value with digits cannot be written with more than 65535 places. A configuration may ask for more,
and then a run ends without an answer after the lines before the value.

* **values** — the last line of a report is missing exactly for such a value
  (`Report.resultLine?_eq_none_iff`);
* **scripts** — `Script.AbortsOn`: the inputs on which a script ends without an answer, read off its
  trace (`Script.AbortsOn.of_trace`);
* **configurations** — `Settings.Overlong`: the texts that are run without an answer. There is none
  if the number of places is at most 65535, and otherwise a digit is one
  (`Settings.printable_iff_not_overlong`);
* **all together** — `Settings.aborts_iff_overlong`.
-/

namespace PolishCalc

open Text (Bytes encode dropLines lineAt)

/-! ## Values -/

/-- Only a number with digits can be asked for with too many places. -/
theorem Decimal.Layout.text?_eq_none_iff (layout : Layout) (places : Option Nat)
    (number : Number) :
    layout.text? places number = none ↔
      ∃ count, places = some count ∧ layout.maxPlaces < count ∧
        ∃ negative magnitude, number = .finite negative magnitude := by
  cases number with
  | nan => simp [text?]
  | infinite negative => simp [text?]
  | finite negative magnitude =>
      cases places with
      | none => simp [text?]
      | some count => simp [text?]

theorem Report.resultLine?_eq_none_iff (report : Report) (precision : Option Nat) :
    report.resultLine? precision = none ↔
      ∃ places, precision = some places ∧ 65535 < places ∧
        ∃ negative magnitude, .ofFloat report.value = Decimal.Number.finite negative magnitude := by
  refine Iff.trans ?_ (resultLayout.text?_eq_none_iff precision (.ofFloat report.value))
  rw [resultLine?, formatValue]
  cases resultLayout.text? precision (.ofFloat report.value) with
  | none => simp
  | some text => simp

/-! ## Scripts -/

variable {ε α : Type}

/-- A run ends as its trace does, or with the error of a segment that is not taken. -/
theorem Trace.play_outcome (segments : List (Segment ε)) (outcome : Outcome ε α)
    (machine : Machine) :
    (play segments (outcome, machine)).1 = outcome ∨
      ∃ segment ∈ segments, (play segments (outcome, machine)).1 = .untaken segment.onFailure := by
  induction segments generalizing machine with
  | nil => exact .inl rfl
  | cons segment later ih =>
      simp only [play]
      split
      · rcases ih { machine with output := (machine.output.write (encode segment.text)).1 } with
          ended | ⟨refused, member, failed⟩
        · exact .inl ended
        · exact .inr ⟨refused, List.mem_cons_of_mem segment member, failed⟩
      · exact .inr ⟨segment, List.mem_cons_self, rfl⟩

/-- The script ends without an answer on the files and inputs with the property, and on no others.
An output that does not take everything may end it with an error before that. -/
structure Script.AbortsOn (script : Script ε α) (property : FileTree → Bytes → Prop) : Prop where
  only (machine : Machine) :
    (script.run machine).1 = .aborted → property machine.files machine.input
  always (machine : Machine) : machine.output.room = none →
    property machine.files machine.input → (script.run machine).1 = .aborted

theorem Script.AbortsOn.of_trace {script : Script ε α} {property : FileTree → Bytes → Prop}
    (answered : ∀ files input, Segment.Answered (script.trace files input).segments)
    (traced : ∀ files input, (script.trace files input).outcome = .aborted ↔ property files input) :
    script.AbortsOn property := by
  constructor
  · intro machine aborted
    rw [script.run_eq_play] at aborted
    apply (traced _ _).mp
    rcases Trace.play_outcome (script.trace machine.files machine.input).segments
      (script.trace machine.files machine.input).outcome
      { files := (script.trace machine.files machine.input).files
        input := (script.trace machine.files machine.input).unread
        output := machine.output } with ended | ⟨segment, member, untaken⟩
    · exact ended.symm.trans aborted
    · obtain ⟨cause, given⟩ := answered machine.files machine.input segment member
      rw [given] at untaken
      exact nomatch untaken.symm.trans aborted
  · intro machine unlimited reached
    rw [run_unlimited unlimited]
    exact (traced _ _).mpr reached

/-! ## Configurations -/

/-- Running the text gives a value with digits, and more places are asked for than can be
written. -/
def Settings.Overlong (settings : Settings) (text : String) : Prop :=
  ∃ report places, runExpression settings text = .ok report ∧ settings.precision = some places ∧
    65535 < places ∧
    ∃ negative magnitude, .ofFloat report.value = Decimal.Number.finite negative magnitude

theorem Report.resultLine?_eq_none_iff_overlong {settings : Settings} {text : String}
    {report : Report} (success : runExpression settings text = .ok report) :
    report.resultLine? settings.precision = none ↔ settings.Overlong text := by
  rw [resultLine?_eq_none_iff]
  constructor
  · rintro ⟨places, asked, many, digits⟩
    exact ⟨report, places, success, asked, many, digits⟩
  · rintro ⟨report', places, success', asked, many, digits⟩
    obtain rfl := Except.ok.inj (success'.symm.trans success)
    exact ⟨places, asked, many, digits⟩

theorem Settings.not_overlong_of_refused {settings : Settings} {text : String} {cause : RunError}
    (refused : runExpression settings text = .error cause) : ¬ settings.Overlong text := by
  rintro ⟨report, places, success, _⟩
  exact nomatch refused.symm.trans success

/-- Some text is run without an answer exactly if too many places are configured. -/
theorem Settings.printable_iff_not_overlong (settings : Settings) :
    settings.Printable ↔ ∀ text, ¬ settings.Overlong text := by
  constructor
  · rintro printable text ⟨_, places, _, asked, many, _⟩
    exact Nat.not_le_of_lt many (printable places asked)
  · intro answered places asked
    by_contra many
    -- a digit has a value with digits
    have digits : Decimal.Number.ofFloat (Arithmetic.binary64.digit 1) =
        .finite false ⟨4503599627370496, -52⟩ := by decide +kernel
    exact answered _ ⟨_, places, Execution.runExpression_written settings (.leaf 1), asked,
      Nat.lt_of_not_le many, _, _, digits⟩

theorem Report.ending_eq_aborted_iff (report : Report) (precision : Option Nat) (value : α) :
    (report.ending precision value : Outcome ε α) = .aborted ↔
      report.resultLine? precision = none := by
  rw [ending, resultLine?]
  cases formatValue report.value precision with
  | none => simp
  | some text => simp

theorem verdict_aborted_iff (settings : Settings) (text : String) (files : FileTree)
    (unread : Bytes) :
    (verdict settings text files unread).outcome = .aborted ↔ settings.Overlong text := by
  rw [verdict]
  cases ran : runExpression settings text with
  | ok report =>
      exact (report.ending_eq_aborted_iff _ _).trans (Report.resultLine?_eq_none_iff_overlong ran)
  | error cause => simp [Settings.not_overlong_of_refused ran]

/-- The expression that the dialogue runs on an input, if the lines that it hears are texts. -/
def Dialogue.expression? (settings : Settings) (input : Bytes) : Option String := do
  let answer ← Text.decode? (lineAt 0 input)
  if accepts (Text.trim answer) then
    return Text.trim (← Text.decode? (lineAt 1 input))
  else
    return settings.sample

theorem Dialogue.course_aborted_iff (settings : Settings) (files : FileTree) (input : Bytes) :
    (course settings files input).outcome = .aborted ↔
      ∃ expression ∈ expression? settings input, settings.Overlong expression := by
  rw [course, expression?]
  cases Text.decode? (lineAt 0 input) with
  | none => simp [Trace.after]
  | some answer =>
      simp only [Option.bind_eq_bind, Option.bind_some]
      split
      · cases Text.decode? (lineAt 1 input) with
        | none => simp [Trace.after]
        | some line => simp [Trace.after, verdict_aborted_iff]
      · simp [Trace.after, verdict_aborted_iff]

theorem Execution.evaluation_aborted_iff (settings : Settings) (files : FileTree) (unread : Bytes)
    (expression : Option String) :
    (evaluation settings files unread expression).outcome = .aborted ↔
      settings.Overlong (chosen settings expression) := by
  rw [evaluation]
  cases ran : runExpression settings (chosen settings expression) with
  | ok report =>
      exact (report.ending_eq_aborted_iff _ _).trans (Report.resultLine?_eq_none_iff_overlong ran)
  | error cause => simp [Settings.not_overlong_of_refused ran]

/-- The command that writes a report loads the settings first, and loading always has an answer. -/
theorem Invocation.abortsOn_eval {invocation : Invocation} {expression : Option String}
    (command : invocation.command = some (.eval expression)) (surroundings : Surroundings) :
    (invocation.execute surroundings).AbortsOn fun files input =>
      ∃ loaded,
        ((Settings.load surroundings invocation.config).run { files, input }).1 = .done loaded ∧
        (invocation.effective loaded).Overlong
          (Execution.chosen (invocation.effective loaded) expression) := by
  have needs : action? invocation.command =
      some fun settings => Execution.eval settings expression := by
    rw [command]
    rfl
  apply Script.AbortsOn.of_trace (answered_execute needs surroundings)
  intro files input
  rw [trace_execute needs]
  rcases Settings.load_cases surroundings invocation.config { files, input } with
    ⟨loaded, success⟩ | ⟨cause, refused⟩
  · simp [success, Execution.trace_eval, Execution.evaluation_aborted_iff]
  · simp [refused]

/-! ## All together -/

/-- When runs with loaded settings end without an answer: exactly if the value of the text that is
run has digits and more places are configured than can be written. Every other report has its last
line. So all texts have an answer exactly under settings with at most 65535 places. -/
theorem Settings.aborts_iff_overlong {surroundings : Surroundings} {explicit : Option String}
    {files : FileTree} {input : Bytes} {loaded : Settings}
    (success : ((Settings.load surroundings explicit).run { files, input }).1 = .done loaded) :
    (∀ text, (runAndReport loaded text).AbortsOn fun _ _ => loaded.Overlong text) ∧
      ((runInteractive loaded).AbortsOn fun _ heard =>
        ∃ expression ∈ Dialogue.expression? loaded heard, loaded.Overlong expression) ∧
      (∀ strict expression output,
        let invocation : Invocation :=
          { config := explicit, strict, command := some (.eval expression) }
        let settings : Settings := { loaded with strict := loaded.strict || strict }
        let outcome := ((invocation.execute surroundings).run { files, input, output }).1
        let text := (expression.map Text.trim).getD loaded.sample
        (outcome = .aborted → settings.Overlong text) ∧
          (output.room = none → settings.Overlong text → outcome = .aborted)) ∧
      (∀ text report, runExpression loaded text = .ok report →
        ((∃ line, report.resultLine? loaded.precision = some line) ↔ ¬ loaded.Overlong text)) ∧
      ((∀ text, ¬ loaded.Overlong text) ↔
        ∀ places, loaded.precision = some places → places ≤ 65535) := by
  refine ⟨?_, ?_, ?_, ?_, ?_⟩
  · intro text
    apply Script.AbortsOn.of_trace
    · intro files input
      rw [trace_runAndReport]
      exact answered_verdict loaded text files input
    · intro files input
      rw [trace_runAndReport]
      exact verdict_aborted_iff loaded text files input
  · apply Script.AbortsOn.of_trace
    · intro files input
      rw [Dialogue.trace_runInteractive]
      exact Dialogue.answered_course loaded files input
    · intro files input
      rw [Dialogue.trace_runInteractive]
      exact Dialogue.course_aborted_iff loaded files input
  · intro strict expression output invocation settings outcome text
    have aborts := invocation.abortsOn_eval rfl surroundings
    constructor
    · intro aborted
      obtain ⟨loaded', success', overlong⟩ := aborts.only { files, input, output } aborted
      obtain rfl := Outcome.done.inj (success'.symm.trans success)
      exact overlong
    · intro unlimited overlong
      exact aborts.always { files, input, output } unlimited ⟨loaded, success, overlong⟩
  · intro text report ran
    rw [← Report.resultLine?_eq_none_iff_overlong ran, ← ne_eq, Option.ne_none_iff_exists']
  · exact loaded.printable_iff_not_overlong.symm

/-- With the largest number of places that can be written, no text is run without an answer. -/
theorem Settings.aborts_iff_overlong_largest :
    let surroundings : Surroundings := { environment := [("EXPTREE_PRECISION", "65535")] }
    let loaded : Settings := { precision := some 65535 }
    ((Settings.load surroundings none).run {}).1 = .done loaded ∧
      ∀ text (machine : Machine), ((runAndReport loaded text).run machine).1 ≠ .aborted := by
  intro surroundings loaded
  have success : ((Settings.load surroundings none).run {}).1 = .done loaded := rfl
  obtain ⟨runs, _, _, _, answered⟩ := aborts_iff_overlong success
  refine ⟨success, ?_⟩
  intro text machine aborted
  have few : ∀ places, loaded.precision = some places → places ≤ 65535 := by
    rintro places asked
    obtain rfl := Option.some.inj asked
    exact Nat.le_refl 65535
  exact answered.mpr few text ((runs text).only machine aborted)

/-- A variable may ask for one place more, and then a digit is run without an answer, by every
command that runs it. -/
theorem Settings.loaded_overlong :
    let surroundings : Surroundings := { environment := [("EXPTREE_PRECISION", "65536")] }
    let loaded : Settings := { precision := some 65536 }
    let invocation : Invocation := { command := some (.eval (some "1")) }
    ((Settings.load surroundings none).run {}).1 = .done loaded ∧
      (∃ report, runExpression loaded "1" = .ok report ∧
        report.resultLine? loaded.precision = none) ∧
      ((runAndReport loaded "1").run {}).1 = .aborted ∧
      ((runInteractive loaded).run { input := encode "yes\n1\n" }).1 = .aborted ∧
      ((invocation.execute surroundings).run {}).1 = .aborted := by
  intro surroundings loaded invocation
  have success : ((Settings.load surroundings none).run {}).1 = .done loaded := rfl
  have ran : runExpression loaded "1" = .ok (.ofExpr "1" (.leaf 1)) :=
    Execution.runExpression_written loaded (.leaf 1)
  have digits : Decimal.Number.ofFloat (Arithmetic.binary64.digit 1) =
      .finite false ⟨4503599627370496, -52⟩ := by decide +kernel
  have overlong : loaded.Overlong "1" :=
    ⟨_, 65536, ran, rfl, by decide, _, _, digits⟩
  refine ⟨success, ⟨_, ran, ?_⟩, ?_, ?_, ?_⟩
  · exact (Report.resultLine?_eq_none_iff_overlong ran).mpr overlong
  · rw [Script.run_unlimited rfl, trace_runAndReport]
    exact (verdict_aborted_iff loaded "1" {} []).mpr overlong
  · rw [Script.run_unlimited rfl, Dialogue.trace_runInteractive]
    have heard : Dialogue.expression? loaded (encode "yes\n1\n") = some "1" := by decide +kernel
    exact (Dialogue.course_aborted_iff loaded _ _).mpr ⟨"1", heard, overlong⟩
  · exact (invocation.abortsOn_eval rfl surroundings).always {} rfl ⟨loaded, success, overlong⟩

end PolishCalc

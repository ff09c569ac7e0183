import PolishCalc.Proofs.Commands
import PolishCalc.Proofs.Drawing
import PolishCalc.Proofs.Interleaving

/-!
# Commands on one text

The commands that run a text read it one by one, each for itself.

* **results** — for each text there is one cause for which it is refused, or one report and one
  drawing, whoever asks (`Execution.results`);
* **answers** — a text on the second line of a conversation is run as any other
  (`Execution.conversation_answers`);
* **agreement** — so all commands refuse a text or all write parts of one report
  (`Execution.commands_agree`).
-/

namespace PolishCalc

open Text (Bytes encode IsFirstLine)

namespace Report

/-- The report that the recursion over an expression gives. -/
def ofExpr (expression : String) (e : Expr) : Report where
  expression
  prefixForm := String.ofList (e.written .preorder)
  infixForm := String.ofList (e.written .inorder)
  postfixForm := String.ofList (e.written .postorder)
  value := e.value .binary64

/-- The written form in an order. -/
def form (report : Report) : Order → String
  | .preorder => report.prefixForm
  | .inorder => report.infixForm
  | .postorder => report.postfixForm

theorem form_ofExpr (expression : String) (e : Expr) (order : Order) :
    (ofExpr expression e).form order = String.ofList (e.written order) := by
  cases order <;> rfl

theorem ofTree_eq {t : Tree} {e : Expr} (represents : t.Represents e) (expression : String) :
    ofTree expression t = .ok (ofExpr expression e) := by
  rw [ofTree, represents.render_eq, represents.render_eq, represents.render_eq,
    represents.evaluate_eq]
  rfl

end Report

namespace Execution

/-! ## Results -/

theorem runExpression_of_read {settings : Settings} {text : String} {t : Tree} {e : Expr}
    (success : Tree.read settings.strict text = .ok t) (represents : t.Represents e) :
    runExpression settings text = .ok (.ofExpr text e) := by
  rw [runExpression, Report.ofText, success]
  show (Report.ofTree text t).mapError _ = _
  rw [Report.ofTree_eq represents]
  rfl

theorem runExpression_of_refused {settings : Settings} {text : String} {cause : ExprError}
    (refused : Tree.read settings.strict text = .error cause) :
    runExpression settings text = .error (.expression cause) := by
  rw [runExpression, Report.ofText, refused]
  rfl

theorem drawingText_eq {t : Tree} {e : Expr} (represents : t.Represents e) :
    t.drawingText = .ok (unlines e.drawing) := by
  rw [Tree.drawingText, represents.drawing_eq]
  rfl

theorem runExpression_cases (settings : Settings) (expression : String) :
    (∃ cause, runExpression settings expression = .error (.expression cause)) ∨
      ∃ report, runExpression settings expression = .ok report := by
  rw [runExpression]
  cases Report.ofText settings.strict expression with
  | error cause => exact .inl ⟨cause, rfl⟩
  | ok report => exact .inr ⟨report, rfl⟩

/-- All that can be asked about a text is refused for one cause, or answered from one report, whose
prefix form is what the drawing shows. -/
theorem results (settings : Settings) (text : String) :
    (∃ cause, runExpression settings (Text.trim text) = .error (.expression cause) ∧
      (∀ order, rendering settings text order = .error cause) ∧
      drawing settings text = .error cause) ∨
    ∃ report lines, runExpression settings (Text.trim text) = .ok report ∧
      (∀ order, rendering settings text order = .ok (report.form order)) ∧
      drawing settings text = .ok (unlines lines) ∧
      List.Forall₂ Drawing.Shows lines (report.form .preorder).toList := by
  simp only [rendering, drawing]
  cases read : Tree.read settings.strict (Text.trim text) with
  | error cause => exact .inl ⟨cause, runExpression_of_refused read, fun _ => rfl, rfl⟩
  | ok t =>
      obtain ⟨e, _, _, represents, _⟩ := Tree.represents_of_read read
      refine .inr ⟨_, e.drawing, runExpression_of_read read represents, ?_,
        drawingText_eq represents, ?_⟩
      · intro order
        rw [Report.form_ofExpr]
        exact represents.render_eq order
      · rw [Report.form_ofExpr, String.toList_ofList]
        exact e.drawing_shows

/-! ## Agreement -/

/-- The two lines that make the dialogue run a text. -/
def answers (text : String) : Bytes :=
  encode "yes\n" ++ encode (text ++ "\n")

/-- The dialogue runs the text of the second line without the blanks around it. -/
theorem conversation_answers (settings : Settings) {text : String} (oneLine : '\n' ∉ text.toList)
    (unread : Bytes) :
    Dialogue.Conversation settings (answers text) unread
      (.ofExcept (runExpression settings (Text.trim text)))
      (unlines (Dialogue.opening ++ ["Enter your prefix expression:", ""]) ++
        response settings (Text.trim text)) := by
  have first : IsFirstLine (encode "yes\n") (encode (text ++ "\n") ++ unread) :=
    .inl ⟨encode "yes", by decide +kernel, rfl⟩
  have second : IsFirstLine (encode (text ++ "\n")) unread :=
    (Text.splitLine_eq_iff.mp (Text.splitLine_encode oneLine unread)).2
  have agrees : Dialogue.Agrees (Text.trim "yes\n") := by decide +kernel
  have trimmed : Text.trim (text ++ "\n") = Text.trim text := by
    have before : ∀ c ∈ "".toList, Text.isBlank c = true := List.all_eq_true.mp rfl
    have after : ∀ c ∈ "\n".toList, Text.isBlank c = true := List.all_eq_true.mp rfl
    have padded := Text.trim_padded before after text
    rwa [String.empty_append] at padded
  rw [← trimmed]
  exact .accepted first (Text.decode?_encode _) agrees second (Text.decode?_encode _)

/-- All ways of running a text end with one cause. -/
structure Refused (settings : Settings) (text : String) (machine : Machine) (unread : Bytes)
    (cause : ExprError) : Prop where
  verdict : runExpression settings (Text.trim text) = .error (.expression cause)
  eval : (Execution.eval settings (some text)).run machine =
    (.failed (expressionError cause), machine)
  render (order : Order) : (Execution.render settings text order).run machine =
    (.failed (expressionError cause), machine)
  tree : (Execution.tree settings text).run machine = (.failed (expressionError cause), machine)
  interactive : (Execution.interactive settings).run machine =
    (.failed (.reported (.expression cause)),
      { machine.afterWriting (unlines (Dialogue.opening ++ ["Enter your prefix expression:", ""]) ++
          unlines ["Error: " ++ cause.message, hintText]) with
        input := unread })

/-- All ways of running a text write parts of one report, and a drawing of its prefix form. -/
structure Reported (settings : Settings) (text : String) (machine : Machine) (unread : Bytes)
    (report : Report) : Prop where
  verdict : runExpression settings (Text.trim text) = .ok report
  eval : (Execution.eval settings (some text)).run machine =
    (.done (), machine.afterWriting (unlines (report.lines settings.precision)))
  render (order : Order) : (Execution.render settings text order).run machine =
    (.done (), machine.afterWriting (report.form order ++ "\n"))
  tree : ∃ lines, List.Forall₂ Drawing.Shows lines (report.form .preorder).toList ∧
    (Execution.tree settings text).run machine = (.done (), machine.afterWriting (unlines lines))
  interactive : (Execution.interactive settings).run machine =
    (.done (),
      { machine.afterWriting (unlines (Dialogue.opening ++ ["Enter your prefix expression:", ""]) ++
          unlines (report.lines settings.precision)) with
        input := unread })

/-- One text is refused by all or reported by all. -/
theorem refused_or_reported {settings : Settings} (printable : settings.Printable) {text : String}
    (oneLine : '\n' ∉ text.toList) {machine : Machine} (unlimited : machine.output.room = none)
    {unread : Bytes} (asked : machine.input = answers text ++ unread) :
    (∃ cause, Refused settings text machine unread cause) ∨
      ∃ report, Reported settings text machine unread report := by
  have conversation := conversation_answers settings oneLine unread
  have dialogue := run_interactive printable conversation unlimited asked
  have evaluated := run_eval unlimited printable (some text)
  have chosen : chosen settings (some text) = Text.trim text := rfl
  rw [chosen] at evaluated
  rcases results settings text with
    ⟨cause, ran, rendered, drawn⟩ | ⟨report, lines, ran, rendered, drawn, shows⟩
  · rw [ran] at evaluated dialogue
    refine .inl ⟨cause, ran, evaluated, ?_, ?_, dialogue⟩
    · intro order
      rw [run_render unlimited, rendered]
      rfl
    · rw [run_tree unlimited, drawn]
      rfl
  · rw [ran] at evaluated dialogue
    refine .inr ⟨report, ran, evaluated, ?_, ⟨lines, shows, ?_⟩, dialogue⟩
    · intro order
      rw [run_render unlimited, rendered]
      rfl
    · rw [run_tree unlimited, drawn]
      rfl

/-- The commands that run a text agree: all refuse it for one cause, or all write parts of one
report. Blanks around the text change nothing. The sample is the same for the command that is given
no text and for the dialogue in which the offer is declined. -/
theorem commands_agree {settings : Settings} (printable : settings.Printable) {machine : Machine}
    (unlimited : machine.output.room = none) (unread : Bytes) :
    (∀ text : String, '\n' ∉ text.toList →
      let asked := { machine with input := answers text ++ unread }
      (∃ cause, Refused settings text asked unread cause) ∨
        ∃ report, Reported settings text asked unread report) ∧
    (∀ text before after : String, '\n' ∉ text.toList →
      (∀ c ∈ before.toList, Text.isBlank c = true ∧ c ≠ '\n') →
      (∀ c ∈ after.toList, Text.isBlank c = true ∧ c ≠ '\n') →
      let padded := before ++ text ++ after
      eval settings (some padded) = eval settings (some text) ∧
      (∀ order, render settings padded order = render settings text order) ∧
      tree settings padded = tree settings text ∧
      (interactive settings).run { machine with input := answers padded ++ unread } =
        (interactive settings).run { machine with input := answers text ++ unread }) ∧
    (∀ answer word, IsFirstLine answer unread → Text.decode? answer = some word →
      ¬ Dialogue.Agrees (Text.trim word) →
      let opening := unlines
        (Dialogue.opening ++ ["Using the default expression: " ++ settings.sample, ""])
      let asked := { machine with input := answer ++ unread }
      (∃ cause, runExpression settings settings.sample = .error (.expression cause) ∧
        (eval settings none).run asked = (.failed (expressionError cause), asked) ∧
        (interactive settings).run asked =
          (.failed (.reported (.expression cause)),
            { asked.afterWriting
                (opening ++ unlines ["Error: " ++ cause.message, hintText]) with
              input := unread })) ∨
      ∃ report, runExpression settings settings.sample = .ok report ∧
        (eval settings none).run asked =
          (.done (), asked.afterWriting (unlines (report.lines settings.precision))) ∧
        (interactive settings).run asked =
          (.done (),
            { asked.afterWriting (opening ++ unlines (report.lines settings.precision)) with
              input := unread })) := by
  refine ⟨?_, ?_, ?_⟩
  · intro text oneLine asked
    have unlimited : asked.output.room = none := unlimited
    exact refused_or_reported printable oneLine unlimited rfl
  · intro text before after oneLine blankBefore blankAfter padded
    have trimmed : Text.trim padded = Text.trim text :=
      Text.trim_padded (fun c member => (blankBefore c member).1)
        (fun c member => (blankAfter c member).1) text
    -- with the blanks around it the text is still one line of the input
    have oneLine' : '\n' ∉ padded.toList := by
      simp only [padded, String.toList_append, List.mem_append, not_or]
      exact ⟨⟨fun member => (blankBefore _ member).2 rfl, oneLine⟩,
        fun member => (blankAfter _ member).2 rfl⟩
    refine ⟨?_, ?_, ?_, ?_⟩
    · simp only [eval, Option.map_some, trimmed]
    · intro order
      simp only [render, trimmed]
    · simp only [tree, trimmed]
    · let asked (text : String) : Machine := { machine with input := answers text ++ unread }
      have unlimited (text : String) : (asked text).output.room = none := unlimited
      have plain := run_interactive printable (conversation_answers settings oneLine unread)
        (unlimited text) rfl
      have around := run_interactive printable (conversation_answers settings oneLine' unread)
        (unlimited padded) rfl
      rw [trimmed] at around
      exact around.trans plain.symm
  · intro answer word first decoded declines opening asked
    have unlimited : asked.output.room = none := unlimited
    have evaluated := run_eval unlimited printable none
    have dialogue :=
      run_interactive printable (.declined first decoded declines) unlimited rfl
    have chosen : chosen settings none = settings.sample := rfl
    rw [chosen] at evaluated
    rcases runExpression_cases settings settings.sample with ⟨cause, ran⟩ | ⟨report, ran⟩
    · rw [ran] at evaluated dialogue
      exact .inl ⟨cause, ran, evaluated, dialogue⟩
    · rw [ran] at evaluated dialogue
      exact .inr ⟨report, ran, evaluated, dialogue⟩

/-- A sum that lacks an operand, alone and with blanks around it, and the sample. -/
theorem commands_agree_underflow :
    Refused .default "+1" { input := answers "+1" ++ [] } [] (.stackUnderflow '+' 0) ∧
    (interactive .default).run { input := answers ("\t" ++ "+1" ++ " ") ++ [] } =
      (interactive .default).run { input := answers "+1" ++ [] } ∧
    let declined : Machine := { input := encode "no\n" ++ [] }
    ∃ report,
      (eval .default none).run declined =
        (.done (), declined.afterWriting (unlines (Report.lines report none))) ∧
      ((interactive .default).run declined).1 = .done () := by
  have printable : Settings.default.Printable := fun _ given => nomatch given
  let machine : Machine := {}
  obtain ⟨texts, blanks, sample⟩ :=
    commands_agree printable (rfl : machine.output.room = none) []
  have oneLine : '\n' ∉ "+1".toList := by decide +kernel
  refine ⟨?_, ?_, ?_⟩
  · rcases texts "+1" oneLine with ⟨cause, refused⟩ | ⟨report, reported⟩
    · have verdict : runExpression .default (Text.trim "+1") =
          .error (.expression (.stackUnderflow '+' 0)) := rfl
      have same := refused.verdict.symm.trans verdict
      simp only [Except.error.injEq, RunError.expression.injEq] at same
      rwa [same] at refused
    · have verdict : (runExpression .default (Text.trim "+1")).isOk = false := rfl
      rw [reported.verdict] at verdict
      cases verdict
  · exact (blanks "+1" "\t" " " oneLine (by simp; decide) (by simp; decide)).2.2.2
  · intro declined
    have first : IsFirstLine (encode "no\n") [] := .inl ⟨encode "no", by decide +kernel, rfl⟩
    have declines : ¬ Dialogue.Agrees (Text.trim "no\n") := by decide +kernel
    rcases sample _ _ first (Text.decode?_encode _) declines with
      ⟨cause, ran, _⟩ | ⟨report, _, evaluated, dialogue⟩
    · have verdict : (runExpression .default Settings.default.sample).isOk = true := by
        decide +kernel
      rw [ran] at verdict
      cases verdict
    · refine ⟨report, evaluated, ?_⟩
      rw [dialogue]

end Execution

end PolishCalc

import PolishCalc.Proofs.Agreement

/-!
# Prefix forms as normal forms

A lenient reading discards what follows the first expression of a text. What it keeps is the prefix
form in the report.

* **reading again** — both readings take the prefix form of an expression as that expression
  (`Tree.read_written`), so running it gives the report on it, whatever the settings are
  (`Execution.runExpression_written`);
* **reports** — a report is about the first expression of its text (`Execution.ofExpr_of_report`);
* **normal forms** — so a report can be had again from its prefix form
  (`Execution.prefixForm_normal`).
-/

namespace PolishCalc

/-- The prefix form of an expression is read as this expression, leniently or strictly. -/
theorem Tree.read_written (strict : Bool) (e : Expr) :
    ∃ t, Tree.read strict (String.ofList (e.written .preorder)) = .ok t ∧ t.Represents e := by
  have decomposed : (String.ofList (e.written .preorder)).toList =
      [e].flatMap (Expr.written .preorder) := by
    rw [String.toList_ofList, List.flatMap_singleton]
  obtain ⟨t, lenient, represents, refusal⟩ := read_flatMap decomposed
  rw [if_pos rfl] at refusal
  cases strict with
  | false => exact ⟨t, lenient, represents⟩
  | true => exact ⟨t, refusal, represents⟩

namespace Execution

theorem runExpression_written (settings : Settings) (e : Expr) :
    runExpression settings (String.ofList (e.written .preorder)) =
      .ok (.ofExpr (String.ofList (e.written .preorder)) e) := by
  obtain ⟨t, success, represents⟩ := Tree.read_written settings.strict e
  exact runExpression_of_read success represents

/-- A report is about the first expression of its text. -/
theorem ofExpr_of_report {settings : Settings} {text : String} {report : Report}
    (success : runExpression settings text = .ok report) :
    ∃ e es, text.toList = List.flatMap (Expr.written .preorder) (e :: es) ∧
      report = .ofExpr text e := by
  obtain ⟨t, read, made⟩ := bind_eq_ok (mapError_eq_ok success)
  obtain ⟨e, es, decomposed, represents, _⟩ := Tree.represents_of_read read
  rw [Report.ofTree_eq represents] at made
  exact ⟨e, es, decomposed, (Except.ok.inj made).symm⟩

/-- Strict reading accepts a text exactly if nothing follows its first expression. -/
theorem strict_read_iff {text : String} {e : Expr} {es : List Expr}
    (decomposed : text.toList = List.flatMap (Expr.written .preorder) (e :: es)) :
    (∃ t, Tree.read true text = .ok t) ↔ es = [] := by
  obtain ⟨t, _, _, refusal⟩ := Tree.read_flatMap decomposed
  rw [refusal]
  by_cases single : es = []
  · simp only [single, if_true, Except.ok.injEq, exists_eq']
  · simp only [single, if_false, reduceCtorEq, exists_false]

/-- The prefix form in a report is the text up to the operands that were discarded: it is the whole
text exactly if strict reading accepts that. Running it gives the same report again, under any
settings. -/
theorem prefixForm_normal {settings : Settings} {text : String} {report : Report}
    (success : runExpression settings text = .ok report) :
    report.expression = text ∧
      report.prefixForm.toList <+: text.toList ∧
      (∃ discarded e es,
        Splits text.toList (report.prefixForm.toList :: discarded) (e :: es)) ∧
      (report.prefixForm = text ↔ ∃ t, Tree.read true text = .ok t) ∧
      ∀ other : Settings, ∃ again, runExpression other report.prefixForm = .ok again ∧
        again.expression = report.prefixForm ∧ again.prefixForm = report.prefixForm ∧
        again.infixForm = report.infixForm ∧ again.postfixForm = report.postfixForm ∧
        again.value = report.value := by
  obtain ⟨e, es, decomposed, rfl⟩ := ofExpr_of_report success
  have kept : (Report.ofExpr text e).prefixForm.toList = e.written .preorder :=
    String.toList_ofList
  have split : text.toList = e.written .preorder ++ es.flatMap (Expr.written .preorder) := by
    rw [decomposed, List.flatMap_cons]
  refine ⟨rfl, ?_, ?_, ?_, ?_⟩
  · rw [kept, split]
    exact List.prefix_append _ _
  · refine ⟨es.map (Expr.written .preorder), e, es, ?_⟩
    rw [kept]
    exact splits_iff.mpr ⟨rfl, decomposed⟩
  · rw [strict_read_iff decomposed, ← String.toList_inj, kept, split]
    constructor
    · intro whole
      -- no expression is written with nothing
      have nothing : es.flatMap (Expr.written .preorder) =
          ([] : List Expr).flatMap (Expr.written .preorder) := by simpa using whole
      exact Expr.written_flatMap_inj nothing
    · rintro rfl
      rw [List.flatMap_nil, List.append_nil]
  · intro other
    exact ⟨_, runExpression_written other e, rfl, rfl, rfl, rfl, rfl⟩

/-- Of a difference and a digit after it, the difference is kept; it is read strictly too. -/
theorem prefixForm_normal_difference :
    let report : Report := .ofExpr "-921" (.node .sub (.leaf 9) (.leaf 2))
    runExpression .default "-921" = .ok report ∧ report.prefixForm = "-92" ∧
      report.prefixForm.toList <+: "-921".toList ∧ (¬ ∃ t, Tree.read true "-921" = .ok t) ∧
      ∃ again, runExpression { strict := true } "-92" = .ok again ∧
        again.infixForm = "9-2" ∧ again.value = report.value := by
  intro report
  have decomposed : "-921".toList = List.flatMap (Expr.written .preorder)
      [.node .sub (.leaf 9) (.leaf 2), .leaf 1] := rfl
  obtain ⟨t, read, represents, _⟩ := Tree.read_flatMap decomposed
  have success : runExpression .default "-921" = .ok report := runExpression_of_read read represents
  have kept : report.prefixForm = "-92" := rfl
  obtain ⟨_, initial, _, whole, again⟩ := prefixForm_normal success
  obtain ⟨again, ran, _, _, infixForm, _, value⟩ := again { strict := true }
  rw [kept] at ran
  refine ⟨success, kept, initial, ?_, again, ran, infixForm, value⟩
  rw [← whole, kept]
  decide

end Execution

end PolishCalc

import PolishCalc.Proofs.Forest
import PolishCalc.Proofs.Grammar
import PolishCalc.Proofs.Result
import PolishCalc.Tree.Scan

/-!
# What a reading computes

The scan of a text, by suffixes: `Scan.runFrom k text` takes in `text` as if it began at column `k`,
so that the scan of a longer text is one more step (`Scan.runFrom_cons`).

* **one step** — its two ways to succeed and its two ways to fail (`step_digit`, `step_operator`,
  `step_underflow`, `step_invalid`);
* **invariant** — the stack of a scan stands for expressions whose preorder forms, one after
  another, are the text taken in so far (`Scan.runFrom_flatMap`, `Scan.runFrom_sound`);
* **the end** — a reading keeps the first of them (`Tree.read_flatMap`), and succeeds on no other
  text (`Tree.flatMap_of_read`).
-/

namespace PolishCalc

theorem two_le_length_iff {α : Type} {xs : List α} :
    2 ≤ xs.length ↔ ∃ first second rest, xs = first :: second :: rest := by
  constructor
  · intro long
    match xs with
    | [] => exact absurd long (by simp)
    | [_] => exact absurd long (by simp)
    | first :: second :: rest => exact ⟨first, second, rest, rfl⟩
  · rintro ⟨first, second, rest, rfl⟩
    simp

/-- Every character is a digit, an operator or neither. -/
theorem Symbol.char_cases (c : Char) :
    (∃ d, c = digitChar d) ∨ (∃ op : Operator, c = op.toChar) ∨ Symbol.ofChar? c = none := by
  cases classified : Symbol.ofChar? c with
  | none => exact .inr (.inr rfl)
  | some s =>
      have written := Symbol.ofChar?_eq_some_iff.mp classified
      cases s with
      | digit d => exact .inl ⟨d, written.symm⟩
      | operator op => exact .inr (.inl ⟨op, written.symm⟩)

namespace Scan

/-! ## One step -/

theorem step_digit (state : Scan) (d : Fin 10) (column : Nat) :
    state.step (digitChar d, column) = .ok (push state.store state.stack (.leaf d)) := by
  simp only [step, Symbol.ofChar?_digitChar]

theorem step_operator {state : Scan} {l r : Index} {rest : List Index}
    (stacked : state.stack = l :: r :: rest) (op : Operator) (column : Nat) :
    state.step (op.toChar, column) = .ok (push state.store rest (.operator op l r)) := by
  simp only [step, Symbol.ofChar?_operatorChar, stacked]

theorem step_underflow {state : Scan} (short : state.stack.length < 2) (op : Operator)
    (column : Nat) :
    state.step (op.toChar, column) = .error (.stackUnderflow op.toChar column) := by
  simp only [step, Symbol.ofChar?_operatorChar]
  split
  · rename_i stacked
    rw [stacked] at short
    simp only [List.length_cons] at short
    omega
  · rfl

theorem step_invalid {c : Char} (unknown : Symbol.ofChar? c = none) (state : Scan) (column : Nat) :
    state.step (c, column) = .error (.invalidCharacter c column) := by
  simp only [step, unknown]

/-- What a step that succeeds has done. -/
theorem step_cases {state state' : Scan} {c : Char} {column : Nat}
    (success : state.step (c, column) = .ok state') :
    (∃ d, c = digitChar d ∧ state' = push state.store state.stack (.leaf d)) ∨
      ∃ op l r rest, c = Operator.toChar op ∧ state.stack = l :: r :: rest ∧
        state' = push state.store rest (.operator op l r) := by
  rcases Symbol.char_cases c with ⟨d, rfl⟩ | ⟨op, rfl⟩ | unknown
  · rw [step_digit] at success
    exact .inl ⟨d, rfl, (Except.ok.inj success).symm⟩
  · by_cases short : state.stack.length < 2
    · rw [step_underflow short] at success
      cases success
    · obtain ⟨l, r, rest, stacked⟩ := two_le_length_iff.mp (Nat.le_of_not_lt short)
      rw [step_operator stacked] at success
      exact .inr ⟨op, l, r, rest, rfl, stacked, (Except.ok.inj success).symm⟩
  · rw [step_invalid unknown] at success
    cases success

/-! ## Suffixes -/

/-- Takes in a text that begins at a given column, last character first. -/
def runFrom : Nat → List Char → Except ExprError Scan
  | _, [] => .ok {}
  | column, c :: text => do (← runFrom (column + 1) text).step (c, column)

theorem runFrom_cons {state : Scan} {column : Nat} {text : List Char}
    (suffix : runFrom (column + 1) text = .ok state) (c : Char) :
    runFrom column (c :: text) = state.step (c, column) := by
  rw [runFrom, suffix]
  rfl

theorem runFrom_cons_error {error : ExprError} {column : Nat} {text : List Char}
    (suffix : runFrom (column + 1) text = .error error) (c : Char) :
    runFrom column (c :: text) = .error error := by
  rw [runFrom, suffix]
  rfl

/-- The scan of a text is the scan of its suffix at column zero. -/
theorem run_eq_runFrom (text : List Char) : run text = runFrom 0 text := by
  suffices general : ∀ column, (text.zipIdx column).reverse.foldlM step {} = runFrom column text from
    general 0
  induction text with
  | nil => intro column; rfl
  | cons c text ih =>
      intro column
      rw [List.zipIdx_cons, List.reverse_cons, List.foldlM_append, ih (column + 1), runFrom]
      simp only [List.foldlM_cons, List.foldlM_nil, bind_pure]

/-! ## The invariant -/

/-- The entries of the stack stand for the expressions, the top one first. -/
def Holds (state : Scan) (es : List Expr) : Prop :=
  ∃ cells, state.store.Forest state.stack es cells

theorem Holds.length_stack {state : Scan} {es : List Expr} (holds : state.Holds es) :
    state.stack.length = es.length := by
  obtain ⟨_, forest⟩ := holds
  exact forest.holds.length_eq

theorem Holds.push_leaf {state : Scan} {es : List Expr} (holds : state.Holds es) (d : Fin 10) :
    (push state.store state.stack (.leaf d)).Holds (.leaf d :: es) := by
  obtain ⟨_, forest⟩ := holds
  exact ⟨_, forest.insert_leaf d⟩

theorem Holds.push_operator {state : Scan} {left right : Expr} {es : List Expr} {l r : Index}
    {rest : List Index} (holds : state.Holds (left :: right :: es))
    (stacked : state.stack = l :: r :: rest) (op : Operator) :
    (push state.store rest (.operator op l r)).Holds (.node op left right :: es) := by
  obtain ⟨_, forest⟩ := holds
  rw [stacked] at forest
  exact ⟨_, forest.insert_operator op⟩

/-- Two entries of the stack are two expressions, and the other way round. -/
theorem Holds.two_entries_iff {state : Scan} {es : List Expr} (holds : state.Holds es) :
    (∃ l r rest, state.stack = l :: r :: rest) ↔ ∃ left right es', es = left :: right :: es' := by
  rw [← two_le_length_iff, holds.length_stack, two_le_length_iff]

/-- A step puts its character before the text that the stack stands for. -/
theorem step_sound {state state' : Scan} {es : List Expr} {c : Char} {column : Nat}
    (holds : state.Holds es) (success : state.step (c, column) = .ok state') :
    ∃ es', state'.Holds es' ∧
      es'.flatMap (Expr.written .preorder) = c :: es.flatMap (Expr.written .preorder) := by
  rcases step_cases success with ⟨d, rfl, rfl⟩ | ⟨op, l, r, rest, rfl, stacked, rfl⟩
  · exact ⟨.leaf d :: es, holds.push_leaf d, rfl⟩
  · obtain ⟨left, right, es', rfl⟩ := holds.two_entries_iff.mp ⟨l, r, rest, stacked⟩
    refine ⟨.node op left right :: es', holds.push_operator stacked op, ?_⟩
    simp only [List.flatMap_cons, Expr.written_node, List.cons_append, List.append_assoc]

/-- A scan that succeeds leaves a stack that stands for its text. -/
theorem runFrom_sound {column : Nat} {text : List Char} {state : Scan}
    (success : runFrom column text = .ok state) :
    ∃ es, state.Holds es ∧ text = es.flatMap (Expr.written .preorder) := by
  induction text generalizing column state with
  | nil =>
      obtain rfl := Except.ok.inj success
      exact ⟨[], ⟨[], .empty⟩, rfl⟩
  | cons c text ih =>
      obtain ⟨before, suffix, step⟩ := bind_eq_ok success
      obtain ⟨es, holds, written⟩ := ih suffix
      obtain ⟨es', holds', written'⟩ := step_sound holds step
      exact ⟨es', holds', by rw [written, written']⟩

/-- Scanning the preorder form of an expression puts it on top of the stack. -/
theorem runFrom_written {column : Nat} {e : Expr} {text : List Char} {state : Scan}
    {es : List Expr} (suffix : runFrom (column + e.size) text = .ok state) (holds : state.Holds es) :
    ∃ state', runFrom column (e.written .preorder ++ text) = .ok state' ∧ state'.Holds (e :: es) := by
  -- an operand is scanned after everything to the right of it, so text and stack are arbitrary
  induction e generalizing column text state es with
  | leaf d =>
      refine ⟨push state.store state.stack (.leaf d), ?_, holds.push_leaf d⟩
      rw [Expr.written_leaf, List.singleton_append, runFrom_cons suffix, step_digit]
  | node op left right ihLeft ihRight =>
      have columns : column + (Expr.node op left right).size =
          column + 1 + left.size + right.size := by
        rw [Expr.size]
        omega
      rw [columns] at suffix
      obtain ⟨afterRight, scannedRight, holdsRight⟩ := ihRight suffix holds
      obtain ⟨afterLeft, scannedLeft, holdsLeft⟩ := ihLeft scannedRight holdsRight
      obtain ⟨l, r, rest, stacked⟩ := holdsLeft.two_entries_iff.mpr ⟨left, right, es, rfl⟩
      refine ⟨push afterLeft.store rest (.operator op l r), ?_, holdsLeft.push_operator stacked op⟩
      rw [Expr.written_node, List.cons_append, List.append_assoc, runFrom_cons scannedLeft,
        step_operator stacked]

/-- Scanning a concatenation of preorder forms leaves its expressions on the stack. -/
theorem runFrom_flatMap (column : Nat) (es : List Expr) :
    ∃ state, runFrom column (es.flatMap (Expr.written .preorder)) = .ok state ∧ state.Holds es := by
  induction es generalizing column with
  | nil => exact ⟨{}, rfl, [], .empty⟩
  | cons e es ih =>
      obtain ⟨state, suffix, holds⟩ := ih (column + e.size)
      rw [List.flatMap_cons]
      exact runFrom_written suffix holds

/-! ## The end -/

/-- Lenient reading makes the first expression the tree; strict reading makes it the same tree if
there is no other expression. -/
theorem Holds.finish {state : Scan} {e : Expr} {es : List Expr} (holds : state.Holds (e :: es)) :
    ∃ t : Tree, state.finish false = .ok t ∧ t.Represents e ∧
      state.finish true = if es = [] then .ok t else .error (.malformedExpression es.length) := by
  have length := holds.length_stack
  obtain ⟨_, forest⟩ := holds
  unfold Scan.finish
  match stacked : state.stack with
  | [] => rw [stacked] at length; simp at length
  | root :: rest =>
      rw [stacked] at forest length
      -- everything below the root is a stray, also where there is nothing below it
      have entries : state.store.Forest ([root] ++ rest) (e :: es) _ := forest
      obtain ⟨_, kept⟩ := entries.prune_strays
      have strays : rest.length = es.length := by simpa using length
      refine ⟨_, rfl, kept.represents, ?_⟩
      cases es with
      | nil => rw [List.length_eq_zero_iff.mp strays]; rfl
      | cons second es =>
          have nonempty : rest ≠ [] := by
            rintro rfl
            simp at strays
          simp [nonempty, strays]

end Scan

namespace Tree

theorem read_empty (strict : Bool) : Tree.read strict "" = .error .emptyExpression := rfl

theorem read_of_scan_error {text : String} {error : ExprError} (nonempty : text ≠ "")
    (failure : Scan.runFrom 0 text.toList = .error error) (strict : Bool) :
    Tree.read strict text = .error error := by
  rw [Tree.read, if_neg (by rwa [String.isEmpty_iff]), Scan.run_eq_runFrom, failure]
  rfl

theorem read_of_scan {text : String} {state : Scan} (nonempty : text ≠ "")
    (scanned : Scan.runFrom 0 text.toList = .ok state) (strict : Bool) :
    Tree.read strict text = state.finish strict := by
  rw [Tree.read, if_neg (by rwa [String.isEmpty_iff]), Scan.run_eq_runFrom, scanned]
  rfl

/-- A text that is not empty leaves a first expression on the stack, if its scan succeeds. -/
theorem flatMap_of_scan {text : String} {state : Scan} (nonempty : text ≠ "")
    (scanned : Scan.runFrom 0 text.toList = .ok state) :
    ∃ e es, state.Holds (e :: es) ∧
      text.toList = List.flatMap (Expr.written .preorder) (e :: es) := by
  obtain ⟨es, holds, decomposed⟩ := Scan.runFrom_sound scanned
  cases es with
  | nil => exact absurd (String.toList_inj.mp decomposed) nonempty
  | cons e es => exact ⟨e, es, holds, decomposed⟩

/-- A concatenation of preorder forms is read as its first expression; strict reading refuses it if
that is not the only one. -/
theorem read_flatMap {text : String} {e : Expr} {es : List Expr}
    (decomposed : text.toList = (e :: es).flatMap (Expr.written .preorder)) :
    ∃ t : Tree, Tree.read false text = .ok t ∧ t.Represents e ∧
      Tree.read true text =
        if es = [] then .ok t else .error (.malformedExpression es.length) := by
  have nonempty : text ≠ "" := by
    rintro rfl
    rw [List.flatMap_cons] at decomposed
    exact Expr.written_ne_nil .preorder e (List.append_eq_nil_iff.mp decomposed.symm).1
  obtain ⟨state, scanned, holds⟩ := Scan.runFrom_flatMap 0 (e :: es)
  obtain ⟨t, lenient, represents, strict⟩ := holds.finish
  rw [← decomposed] at scanned
  have read := read_of_scan nonempty scanned
  exact ⟨t, (read false).trans lenient, represents, (read true).trans strict⟩

/-- Only concatenations of preorder forms are read. -/
theorem flatMap_of_read {strict : Bool} {text : String} {t : Tree}
    (success : Tree.read strict text = .ok t) :
    ∃ e es, text.toList = List.flatMap (Expr.written .preorder) (e :: es) := by
  by_cases empty : text = ""
  · rw [empty, read_empty] at success
    cases success
  · cases scanned : Scan.runFrom 0 text.toList with
    | error error =>
        rw [read_of_scan_error empty scanned] at success
        cases success
    | ok state =>
        obtain ⟨e, es, _, decomposed⟩ := flatMap_of_scan empty scanned
        exact ⟨e, es, decomposed⟩

/-- What lenient reading refuses, strict reading refuses for the same cause. -/
theorem read_strict_of_lenient_error {text : String} {error : ExprError}
    (failure : Tree.read false text = .error error) : Tree.read true text = .error error := by
  by_cases empty : text = ""
  · rw [empty, read_empty] at failure ⊢
    exact failure
  · cases scanned : Scan.runFrom 0 text.toList with
    | error error' =>
        rw [read_of_scan_error empty scanned] at failure ⊢
        exact failure
    | ok state =>
        obtain ⟨e, es, _, decomposed⟩ := flatMap_of_scan empty scanned
        obtain ⟨t, lenient, _, _⟩ := read_flatMap decomposed
        rw [lenient] at failure
        cases failure

/-- A tree that was read stands for the first expression of its text, which is the whole text if
the reading was strict. -/
theorem represents_of_read {strict : Bool} {text : String} {t : Tree}
    (success : Tree.read strict text = .ok t) :
    ∃ e es, text.toList = List.flatMap (Expr.written .preorder) (e :: es) ∧ t.Represents e ∧
      (strict = true → es = []) := by
  obtain ⟨e, es, decomposed⟩ := flatMap_of_read success
  obtain ⟨t', lenient, represents, refusal⟩ := read_flatMap decomposed
  refine ⟨e, es, decomposed, ?_⟩
  cases strict with
  | false =>
      obtain rfl := Except.ok.inj (success.symm.trans lenient)
      exact ⟨represents, by simp⟩
  | true =>
      rw [refusal] at success
      split at success
      · rename_i single
        obtain rfl := Except.ok.inj success
        exact ⟨represents, fun _ => single⟩
      · cases success

end Tree

end PolishCalc

import PolishCalc.Proofs.Path
import PolishCalc.Proofs.Reading

/-!
# Which texts are accepted

The two ways of reading against the grammar `E := digit | op E E`.

* **strict** — exactly the texts of the grammar are accepted, and each is read as its derivation
  tree (`Tree.read_strict_iff`);
* **lenient** — exactly the concatenations of one or more such texts are accepted, and each is read
  as the derivation tree of the first of them (`Tree.read_lenient_iff`).
-/

namespace PolishCalc

namespace Tree

/-- Strict reading accepts exactly the texts of the grammar; the tree it reads is the derivation,
node by node from the root down. -/
theorem read_strict_iff (text : String) :
    ((∃ t, Tree.read true text = .ok t) ↔ ∃ e, Derives text.toList e) ∧
      ∀ t, Tree.read true text = .ok t →
        ∃ e, Derives text.toList e ∧ (∀ e', Derives text.toList e' → e' = e) ∧ t.Represents e ∧
          ∀ path, (t.nodeAt? path).map Node.symbol = (e.at? path).map Expr.symbol := by
  have derivation : ∀ t, Tree.read true text = .ok t →
      ∃ e, Derives text.toList e ∧ t.Represents e := by
    intro t success
    obtain ⟨e, es, decomposed, represents, single⟩ := represents_of_read success
    obtain rfl := single rfl
    rw [List.flatMap_singleton] at decomposed
    exact ⟨e, derives_iff.mpr decomposed, represents⟩
  refine ⟨⟨?_, ?_⟩, ?_⟩
  · rintro ⟨t, success⟩
    obtain ⟨e, derives, _⟩ := derivation t success
    exact ⟨e, derives⟩
  · rintro ⟨e, derives⟩
    have decomposed : text.toList = [e].flatMap (Expr.written .preorder) := by
      rw [List.flatMap_singleton]
      exact derives_iff.mp derives
    obtain ⟨t, _, _, strict⟩ := read_flatMap decomposed
    rw [if_pos rfl] at strict
    exact ⟨t, strict⟩
  · intro t success
    obtain ⟨e, derives, represents⟩ := derivation t success
    exact ⟨e, derives, fun e' other => other.unique derives, represents,
      represents.nodeAt?_symbol⟩

/-- A difference is read with its first operand on the left. -/
theorem read_strict_iff_difference :
    let t : Tree :=
      { store := { slots := #[some (.leaf 2), some (.leaf 9), some (.operator .sub 1 0)] }
        root := some 2 }
    Tree.read true "-92" = .ok t ∧
      ∃ e, Derives ['-', '9', '2'] e ∧ (∀ e', Derives ['-', '9', '2'] e' → e' = e) ∧
        t.Represents e ∧ ∀ path, (t.nodeAt? path).map Node.symbol = (e.at? path).map Expr.symbol :=
  ⟨rfl, (read_strict_iff "-92").2 _ rfl⟩

/-- Lenient reading accepts exactly the concatenations of texts of the grammar. It keeps the first
of them and nothing else; strict reading gives the same tree if there is no other one, and the same
error where there is no tree. -/
theorem read_lenient_iff (text : String) :
    ((∃ t, Tree.read false text = .ok t) ↔
        ∃ words es, words ≠ [] ∧ Splits text.toList words es) ∧
      (∀ words es words' es', Splits text.toList words es → Splits text.toList words' es' →
        words = words' ∧ es = es') ∧
      (∀ first rest e es, Splits text.toList (first :: rest) (e :: es) →
        ∃ t, Tree.read false text = .ok t ∧ t.Represents e ∧ t.size = first.length ∧
          Tree.read true text =
            if rest = [] then .ok t else .error (.malformedExpression rest.length)) ∧
      ∀ error, Tree.read false text = .error error → Tree.read true text = .error error := by
  refine ⟨⟨?_, ?_⟩, fun _ _ _ _ first second => first.unique second, ?_, ?_⟩
  · rintro ⟨t, success⟩
    obtain ⟨e, es, decomposed⟩ := flatMap_of_read success
    exact ⟨_, e :: es, by simp, splits_iff.mpr ⟨rfl, decomposed⟩⟩
  · rintro ⟨words, es, nonempty, splits⟩
    obtain ⟨rfl, decomposed⟩ := splits_iff.mp splits
    cases es with
    | nil => exact absurd rfl nonempty
    | cons e es =>
        obtain ⟨t, lenient, _, _⟩ := read_flatMap decomposed
        exact ⟨t, lenient⟩
  · intro first rest e es splits
    obtain ⟨words, decomposed⟩ := splits_iff.mp splits
    obtain ⟨rfl, rfl⟩ := List.cons.inj words
    obtain ⟨t, lenient, represents, strict⟩ := read_flatMap decomposed
    refine ⟨t, lenient, represents, ?_, ?_⟩
    · rw [represents.size_eq, Expr.length_written]
    · rw [strict, List.length_map]
      simp only [List.map_eq_nil_iff]
  · intro error failure
    exact read_strict_of_lenient_error failure

/-- Of a digit and a sum, lenient reading keeps the digit, and strict reading counts the sum. -/
theorem read_lenient_iff_digit_sum :
    Splits "1+23".toList [['1'], ['+', '2', '3']] [.leaf 1, .node .add (.leaf 2) (.leaf 3)] ∧
      ∃ t, Tree.read false "1+23" = .ok t ∧ t.Represents (.leaf 1) ∧ t.size = 1 ∧
        Tree.read true "1+23" = .error (.malformedExpression 1) := by
  have splits : Splits "1+23".toList [['1'], ['+', '2', '3']]
      [.leaf 1, .node .add (.leaf 2) (.leaf 3)] := splits_iff.mpr ⟨rfl, rfl⟩
  exact ⟨splits, (read_lenient_iff "1+23").2.2.1 _ _ _ _ splits⟩

end Tree

end PolishCalc

import Mathlib.Data.Set.Card
import PolishCalc.Proofs.Path
import PolishCalc.Proofs.Reading
import PolishCalc.Proofs.Traversal

/-!
# Integrity of trees

A tree that was read from a text is a tree: every index in it resolves, and nothing is shared,
cyclic or left over. So no fold over it and no traversal of it meets an index that does not resolve.
-/

namespace PolishCalc

open PolishCalc.Tree (Side)

namespace Tree

/-- The index at the end of a path from the root. -/
def indexAt? (t : Tree) (path : List Side) : Option Index :=
  t.root.bind fun root => t.store.indexBelow? root path

theorem nodeAt?_eq (t : Tree) (path : List Side) :
    t.nodeAt? path = (t.indexAt? path).bind t.store.get? := by
  rw [nodeAt?, indexAt?, Option.bind_assoc]
  simp only [Store.nodeBelow?_eq]

/-- What holds of every tree that is handed out. -/
structure Intact (t : Tree) : Prop where
  /-- The root is live. -/
  root_live : ∃ root, t.root = some root ∧ t.store.Live root
  /-- Both operands of a live operator are live. -/
  operands_live : ∀ i op l r, t.store.get? i = some (.operator op l r) →
    t.store.Live l ∧ t.store.Live r
  /-- Each live node is at the end of exactly one path from the root. -/
  one_path : ∀ i, t.store.Live i → ∃! path, t.indexAt? path = some i
  /-- A leaf holds a single decimal digit. -/
  digits : ∀ i d, t.store.get? i = some (.leaf d) → d.val ≤ 9
  /-- The nodes that are counted are those that can be reached from the root. -/
  size_eq : t.size = {i | ∃ path, t.indexAt? path = some i}.ncard

/-- A store that holds one expression, and nothing else, is an intact tree. -/
theorem Represents.intact {t : Tree} {e : Expr} (represents : t.Represents e) : t.Intact := by
  obtain ⟨root, cells, rooted, holds, distinct, covers⟩ := represents
  have paths : ∀ path, t.indexAt? path = t.store.indexBelow? root path := by
    intro path
    rw [indexAt?, rooted, Option.bind_some]
  refine ⟨⟨root, rooted, holds.live holds.root_mem⟩, ?_, ?_, ?_, ?_⟩
  · intro i op l r found
    obtain ⟨_, _, part⟩ := holds.part ((covers i).mp ⟨_, found⟩)
    exact part.operands_live found
  · intro i live
    simp only [paths]
    obtain ⟨path, ends, unique⟩ := holds.existsUnique_path distinct ((covers i).mp live)
    exact ⟨path, ends, unique⟩
  · intro i d _
    exact Nat.le_of_lt_succ d.isLt
  · -- the paths from the root end at the nodes of the expression, which are the live ones
    have reached : {i | ∃ path, t.indexAt? path = some i} = (cells.toFinset : Set Index) := by
      ext i
      simp only [paths, Set.mem_ofPred_eq, List.coe_toFinset]
      constructor
      · rintro ⟨path, ends⟩
        exact holds.mem_of_path ends
      · exact holds.exists_path
    rw [reached, Set.ncard_coe_finset, List.toFinset_card_of_nodup distinct]
    exact Store.count_eq_length distinct covers

/-- A tree that was read is intact, and no use of it meets an index that does not resolve: it has a
value in every number system, a depth and a drawing, and each call of each traversal of it has an
answer, whatever was taken before. -/
theorem intact_of_read {strict : Bool} {text : String} {t : Tree}
    (success : Tree.read strict text = .ok t) :
    t.Intact ∧ (∀ {α : Type} (arithmetic : Arithmetic α), ∃ v, t.evaluate arithmetic = .ok v) ∧
      (∃ n, t.depth = .ok n) ∧ (∃ lines, t.drawing = .ok lines) ∧
      ∀ order taken t', (t.traverse order).Takes taken t' → ∃ answer, t'.next = .ok answer := by
  obtain ⟨e, _, _, represents, _⟩ := represents_of_read success
  refine ⟨represents.intact, ?_, ⟨_, represents.depth_eq⟩, ⟨_, represents.drawing_eq⟩, ?_⟩
  · intro α arithmetic
    exact ⟨_, represents.evaluate_eq arithmetic⟩
  · intro order taken t' takes
    obtain ⟨later, _, yields⟩ := takes.yields (represents.yields order)
    exact yields.next_ok

/-- Of a product and a sum, lenient reading prunes the three nodes of the sum. -/
theorem intact_of_read_product_sum :
    ∃ t, Tree.read false "*45+12" = .ok t ∧ t.size = 3 ∧ t.Intact ∧
      (∃ v, t.evaluate Arithmetic.binary64 = .ok v) ∧ (∃ n, t.depth = .ok n) ∧
      (∃ lines, t.drawing = .ok lines) ∧
      ∀ order taken t', (t.traverse order).Takes taken t' → ∃ answer, t'.next = .ok answer := by
  have decomposed : "*45+12".toList = List.flatMap (Expr.written .preorder)
      [.node .mul (.leaf 4) (.leaf 5), .node .add (.leaf 1) (.leaf 2)] := rfl
  obtain ⟨t, success, represents, _⟩ := read_flatMap decomposed
  obtain ⟨intact, value, depth, drawing, calls⟩ := intact_of_read success
  exact ⟨t, success, represents.size_eq, intact, value Arithmetic.binary64, depth, drawing, calls⟩

end Tree

end PolishCalc

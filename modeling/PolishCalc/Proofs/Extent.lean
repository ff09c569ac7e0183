import Mathlib.Algebra.Ring.Parity
import Mathlib.Data.Set.Card
import PolishCalc.Proofs.Fold
import PolishCalc.Proofs.Path
import PolishCalc.Proofs.Reading

/-!
# Size and depth

The number of live nodes of a tree against the length of its paths.

* **shapes** — of the nodes of an expression one more than half are leaves
  (`Expr.two_mul_countP_isDigit`), and the depth bounds the size from both sides
  (`Expr.two_mul_depth_le`, `Expr.size_lt_two_pow`);
* **stores** — the slots below an index show the symbols of the expression in preorder
  (`Store.Holds.map_symbol`), so nodes are counted by the symbols they show
  (`Tree.Represents.ncard_symbols`);
* **trees** — a tree that was read is as large as its leaves and its depth say
  (`Tree.size_and_depth`).
-/

namespace PolishCalc

/-! ## Shapes -/

/-- Whether a symbol is a digit. -/
def Symbol.isDigit : Symbol → Bool
  | .digit _ => true
  | .operator _ => false

namespace Expr

theorem two_mul_countP_isDigit (e : Expr) :
    2 * (e.symbols .preorder).countP Symbol.isDigit = e.size + 1 := by
  induction e with
  | leaf d => rfl
  | node op left right ihLeft ihRight =>
      rw [symbols, List.countP_cons_of_neg (by simp [Symbol.isDigit]), List.countP_append, size]
      omega

theorem size_pos (e : Expr) : 0 < e.size := by
  cases e with
  | leaf d => exact Nat.one_pos
  | node op left right =>
      rw [size]
      omega

/-- Each node of a longest path but the last one has another operand. -/
theorem two_mul_depth_le (e : Expr) : 2 * e.depth ≤ e.size + 1 := by
  induction e with
  | leaf d => exact Nat.le_refl 2
  | node op left right ihLeft ihRight =>
      have := left.size_pos
      have := right.size_pos
      rw [depth, size]
      omega

theorem size_lt_two_pow (e : Expr) : e.size < 2 ^ e.depth := by
  induction e with
  | leaf d => exact Nat.one_lt_two
  | node op left right ihLeft ihRight =>
      have deepLeft : 2 ^ left.depth ≤ 2 ^ max left.depth right.depth :=
        Nat.pow_le_pow_right Nat.two_pos (Nat.le_max_left _ _)
      have deepRight : 2 ^ right.depth ≤ 2 ^ max left.depth right.depth :=
        Nat.pow_le_pow_right Nat.two_pos (Nat.le_max_right _ _)
      rw [size, depth, Nat.pow_add]
      omega

end Expr

/-! ## Stores -/

/-- The slots of an expression show its symbols, in preorder. -/
theorem Store.Holds.map_symbol {s : Store} {i : Index} {e : Expr} {cells : List Index}
    (holds : s.Holds i e cells) :
    cells.map (fun j => (s.get? j).map Node.symbol) = (e.symbols .preorder).map some := by
  induction holds with
  | leaf found => rw [List.map_singleton, found]; rfl
  | node found _ _ ihLeft ihRight =>
      rw [List.map_cons, List.map_append, ihLeft, ihRight, found, ← List.map_append]
      rfl

/-- The live nodes with a kind of symbol are as many as these symbols. -/
theorem Tree.Represents.ncard_symbols {t : Tree} {e : Expr} (represents : t.Represents e)
    (kind : Symbol → Bool) :
    {i | ∃ node, t.store.get? i = some node ∧ kind node.symbol = true}.ncard =
      (e.symbols .preorder).countP kind := by
  obtain ⟨root, cells, -, holds, distinct, covers⟩ := represents
  let shows (i : Index) : Bool := ((t.store.get? i).map Node.symbol).any kind
  have nodes : {i | ∃ node, t.store.get? i = some node ∧ kind node.symbol = true} =
      ((cells.filter shows).toFinset : Set Index) := by
    ext i
    rw [List.coe_toFinset, Set.mem_ofPred_eq, Set.mem_ofPred_eq, List.mem_filter, ← covers i]
    constructor
    · rintro ⟨node, found, shown⟩
      exact ⟨⟨node, found⟩, by simp only [shows, found, Option.map_some, Option.any_some, shown]⟩
    · rintro ⟨⟨node, found⟩, shown⟩
      simp only [shows, found, Option.map_some, Option.any_some] at shown
      exact ⟨node, found, shown⟩
  calc _ = cells.countP shows := by
        rw [nodes, Set.ncard_coe_finset, List.toFinset_card_of_nodup (distinct.filter _),
          List.countP_eq_length_filter]
    _ = (cells.map fun i => (t.store.get? i).map Node.symbol).countP (Option.any kind) := by
        rw [List.countP_map]
        rfl
    _ = (e.symbols .preorder).countP kind := by
        rw [holds.map_symbol, List.countP_map]
        rfl

/-! ## Trees -/

namespace Tree

/-- The live leaves of a tree. -/
def leaves (t : Tree) : Set Index :=
  {i | ∃ d, t.store.get? i = some (.leaf d)}

/-- The live operators of a tree. -/
def operators (t : Tree) : Set Index :=
  {i | ∃ op left right, t.store.get? i = some (.operator op left right)}

theorem leaves_eq (t : Tree) :
    t.leaves = {i | ∃ node, t.store.get? i = some node ∧ node.symbol.isDigit = true} := by
  ext i
  constructor
  · rintro ⟨d, found⟩
    exact ⟨_, found, rfl⟩
  · rintro ⟨node, found, digit⟩
    cases node with
    | leaf d => exact ⟨d, found⟩
    | operator op left right => cases digit

theorem operators_eq (t : Tree) :
    t.operators = {i | ∃ node, t.store.get? i = some node ∧ (!node.symbol.isDigit) = true} := by
  ext i
  constructor
  · rintro ⟨op, left, right, found⟩
    exact ⟨_, found, rfl⟩
  · rintro ⟨node, found, operator⟩
    cases node with
    | leaf d => cases operator
    | operator op left right => exact ⟨op, left, right, found⟩

/-- The live nodes of a tree that was read are its leaves and its operators, with one leaf more, so
their number is odd. The depth is the number of nodes on a longest path from the root; the number of
all nodes is between that of a tree with a single operator at each depth and that of a full one. -/
theorem size_and_depth {strict : Bool} {text : String} {t : Tree}
    (success : Tree.read strict text = .ok t) :
    t.size = t.leaves.ncard + t.operators.ncard ∧ t.leaves.ncard = t.operators.ncard + 1 ∧
      Odd t.size ∧
      ∃ depth, t.depth = .ok depth ∧
        (∀ path node, t.nodeAt? path = some node → path.length + 1 ≤ depth) ∧
        (∃ path node, t.nodeAt? path = some node ∧ path.length + 1 = depth) ∧
        1 ≤ depth ∧ 2 * depth - 1 ≤ t.size ∧ t.size ≤ 2 ^ depth - 1 := by
  obtain ⟨e, _, _, represents, _⟩ := represents_of_read success
  have leaves : t.leaves.ncard = (e.symbols .preorder).countP Symbol.isDigit := by
    rw [leaves_eq, represents.ncard_symbols]
  have operators : t.operators.ncard =
      (e.symbols .preorder).countP fun symbol => !symbol.isDigit := by
    rw [operators_eq, represents.ncard_symbols fun symbol => !symbol.isDigit]
  have all := List.length_eq_countP_add_countP Symbol.isDigit (l := e.symbols .preorder)
  simp only [decide_not, Bool.decide_eq_true] at all
  have half := e.two_mul_countP_isDigit
  have least := e.two_mul_depth_le
  have most := e.size_lt_two_pow
  rw [Expr.length_symbols] at all
  rw [represents.size_eq, leaves, operators]
  refine ⟨by omega, by omega, ⟨e.size / 2, by omega⟩, e.depth, represents.depth_eq, ?_, ?_, ?_, ?_,
    ?_⟩
  · intro path node found
    exact Expr.length_lt_depth ((represents.mem_paths_iff path).mpr ⟨node, found⟩)
  · obtain ⟨path, member, longest⟩ := e.exists_longest_path
    obtain ⟨node, found⟩ := (represents.mem_paths_iff path).mp member
    exact ⟨path, node, found, longest⟩
  · obtain ⟨path, -, longest⟩ := e.exists_longest_path
    omega
  · omega
  · omega

/-- A sum in the right operand of each sum is as small as its depth allows; the product after it is
pruned. -/
theorem size_and_depth_chain :
    ∃ t, Tree.read false "+1+2+34*56" = .ok t ∧ t.size = 7 ∧ t.leaves.ncard = 4 ∧ Odd t.size ∧
      t.depth = .ok 4 ∧ 2 * 4 - 1 ≤ t.size ∧ t.size ≤ 2 ^ 4 - 1 := by
  have decomposed : "+1+2+34*56".toList = List.flatMap (Expr.written .preorder)
      [.node .add (.leaf 1) (.node .add (.leaf 2) (.node .add (.leaf 3) (.leaf 4))),
        .node .mul (.leaf 5) (.leaf 6)] := rfl
  obtain ⟨t, success, represents, _⟩ := read_flatMap decomposed
  obtain ⟨parts, leaves, odd, depth, deep, -, -, -, least, most⟩ := size_and_depth success
  have size : t.size = 7 := represents.size_eq
  obtain rfl : depth = 4 := Except.ok.inj (deep.symm.trans represents.depth_eq)
  exact ⟨t, success, size, by omega, odd, deep, least, most⟩

end Tree

end PolishCalc

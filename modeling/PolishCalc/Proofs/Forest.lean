import PolishCalc.Proofs.Reachability
import PolishCalc.Tree

/-!
# Forests in a store

What the indices of a store stand for while a text is read, and what is left of it afterwards. Of
the store only the laws of insertion, removal and counting are used: which index comes next, that a
removal empties one slot, and that live nodes are counted.

* **one expression** — `s.Holds i e cells`: below `i` stands `e`, with its nodes in `cells`, in
  preorder. The relation looks at no other node (`Holds.frame`), and `cells` is what can be reached
  from `i` (`Holds.reaches_iff`);
* **a forest** — `s.Forest stack es cells`: the stack entries stand for `es`, no node belongs to two
  of them or twice to one, and no live node belongs to none;
* **its operations** — a leaf or an operator on top of a forest gives a forest (`Forest.insert_leaf`,
  `Forest.insert_operator`), and pruning the entries below some of them leaves the forest of those
  (`Forest.prune_strays`);
* **a tree** — `t.Represents e`: the forest of the root alone. All that is proved about trees that
  were read from a text goes through it.
-/

namespace PolishCalc

namespace Store

/-! ## One expression -/

/-- Below `i` stands the expression, with its nodes in the given slots, in preorder. -/
inductive Holds (s : Store) : Index → Expr → List Index → Prop
  | leaf {i : Index} {d : Fin 10} : s.get? i = some (.leaf d) → Holds s i (.leaf d) [i]
  | node {i l r : Index} {op : Operator} {left right : Expr} {leftCells rightCells : List Index} :
      s.get? i = some (.operator op l r) → Holds s l left leftCells → Holds s r right rightCells →
      Holds s i (.node op left right) (i :: (leftCells ++ rightCells))

theorem Holds.length_cells {s : Store} {i : Index} {e : Expr} {cells : List Index}
    (holds : s.Holds i e cells) : cells.length = e.size := by
  induction holds with
  | leaf _ => rfl
  | node _ _ _ ihLeft ihRight =>
      simp only [List.length_cons, List.length_append, ihLeft, ihRight, Expr.size]
      omega

/-- Where the nodes of an expression are as before, it still stands. -/
theorem Holds.frame {s s' : Store} {i : Index} {e : Expr} {cells : List Index}
    (holds : s.Holds i e cells) (same : ∀ j ∈ cells, s'.get? j = s.get? j) :
    s'.Holds i e cells := by
  induction holds with
  | leaf found => exact .leaf ((same _ (List.mem_singleton_self _)).trans found)
  | node found _ _ ihLeft ihRight =>
      refine .node ((same _ List.mem_cons_self).trans found) (ihLeft ?_) (ihRight ?_)
      · intro j member
        exact same j (List.mem_cons_of_mem _ (List.mem_append_left _ member))
      · intro j member
        exact same j (List.mem_cons_of_mem _ (List.mem_append_right _ member))

/-- What can be reached from an index is what stands below it. -/
theorem Holds.reaches_iff {s : Store} {i j : Index} {e : Expr} {cells : List Index}
    (holds : s.Holds i e cells) : s.Reaches i j ↔ j ∈ cells := by
  induction holds with
  | leaf found => rw [Store.reaches_iff found]; simp [Node.operands]
  | node found _ _ ihLeft ihRight =>
      rw [Store.reaches_iff found, List.mem_cons, List.mem_append]
      simp [Node.operands, ihLeft, ihRight]

theorem Holds.live {s : Store} {i j : Index} {e : Expr} {cells : List Index}
    (holds : s.Holds i e cells) (member : j ∈ cells) : s.Live j :=
  (holds.reaches_iff.mpr member).live_end

theorem Holds.root_mem {s : Store} {i : Index} {e : Expr} {cells : List Index}
    (holds : s.Holds i e cells) : i ∈ cells := by
  cases holds with
  | leaf _ => exact List.mem_singleton_self i
  | node _ _ _ => exact List.mem_cons_self

/-- Each node of an expression has a part of it below. -/
theorem Holds.part {s : Store} {i j : Index} {e : Expr} {cells : List Index}
    (holds : s.Holds i e cells) (member : j ∈ cells) : ∃ e' cells', s.Holds j e' cells' := by
  induction holds with
  | leaf found =>
      obtain rfl := List.mem_singleton.mp member
      exact ⟨_, _, .leaf found⟩
  | node found left right ihLeft ihRight =>
      rcases List.mem_cons.mp member with rfl | below
      · exact ⟨_, _, .node found left right⟩
      · rcases List.mem_append.mp below with inLeft | inRight
        · exact ihLeft inLeft
        · exact ihRight inRight

theorem Holds.operands_live {s : Store} {i l r : Index} {op : Operator} {e : Expr}
    {cells : List Index} (holds : s.Holds i e cells) (found : s.get? i = some (.operator op l r)) :
    s.Live l ∧ s.Live r := by
  cases holds with
  | leaf found' =>
      rw [found] at found'
      cases found'
  | node found' left right =>
      rw [found] at found'
      cases found'
      exact ⟨left.live left.root_mem, right.live right.root_mem⟩

/-! ## Forests -/

/-- The indices stand for the expressions, one for one, with their nodes in the given slots. -/
inductive HoldsAll (s : Store) : List Index → List Expr → List Index → Prop
  | nil : HoldsAll s [] [] []
  | cons {i : Index} {e : Expr} {cells rest : List Index} {stack : List Index} {es : List Expr} :
      s.Holds i e cells → HoldsAll s stack es rest → HoldsAll s (i :: stack) (e :: es) (cells ++ rest)

theorem HoldsAll.length_eq {s : Store} {stack cells : List Index} {es : List Expr}
    (holds : s.HoldsAll stack es cells) : stack.length = es.length := by
  induction holds with
  | nil => rfl
  | cons _ _ ih => rw [List.length_cons, List.length_cons, ih]

theorem HoldsAll.frame {s s' : Store} {stack cells : List Index} {es : List Expr}
    (holds : s.HoldsAll stack es cells) (same : ∀ j ∈ cells, s'.get? j = s.get? j) :
    s'.HoldsAll stack es cells := by
  induction holds with
  | nil => exact .nil
  | cons top _ ih =>
      refine .cons (top.frame ?_) (ih ?_)
      · intro j member
        exact same j (List.mem_append_left _ member)
      · intro j member
        exact same j (List.mem_append_right _ member)

/-- The lowest entry, apart from the entries above it. -/
theorem HoldsAll.unsnoc {s : Store} {stack cells : List Index} {i : Index} {es : List Expr}
    (holds : s.HoldsAll (stack ++ [i]) es cells) :
    ∃ above lowest aboveCells lowestCells, es = above ++ [lowest] ∧
      cells = aboveCells ++ lowestCells ∧ s.HoldsAll stack above aboveCells ∧
      s.Holds i lowest lowestCells := by
  induction stack generalizing es cells with
  | nil =>
      cases holds with
      | @cons _ e own rest _ es top below =>
          cases below with
          | nil => exact ⟨[], e, [], own, rfl, List.append_nil own, .nil, top⟩
  | cons k stack ih =>
      cases holds with
      | @cons _ e own rest _ es top below =>
          obtain ⟨above, lowest, aboveCells, lowestCells, rfl, rfl, kept, last⟩ := ih below
          exact ⟨e :: above, lowest, own ++ aboveCells, lowestCells, rfl,
            (List.append_assoc _ _ _).symm, .cons top kept, last⟩

/-- The stack entries stand for the expressions, and each live node belongs to one of them, once. -/
structure Forest (s : Store) (stack : List Index) (es : List Expr) (cells : List Index) : Prop where
  holds : s.HoldsAll stack es cells
  distinct : cells.Nodup
  covers : ∀ j, s.Live j ↔ j ∈ cells

namespace Forest

variable {s : Store} {stack cells : List Index} {es : List Expr}

theorem empty : Store.empty.Forest [] [] [] where
  holds := .nil
  distinct := List.nodup_nil
  covers := by
    intro j
    simp [Live, Store.empty, get?]

/-! ## Growth -/

/-- The next index is no node of a forest. -/
theorem next_fresh (forest : s.Forest stack es cells) : s.next ∉ cells := by
  intro member
  obtain ⟨node, found⟩ := (forest.covers s.next).mpr member
  exact absurd (lt_next_of_get? found) (Nat.lt_irrefl _)

theorem get?_insert_of_mem (forest : s.Forest stack es cells) (node : Node) {j : Index}
    (member : j ∈ cells) : (s.insert node).get? j = s.get? j := by
  rw [get?_insert, if_neg]
  rintro rfl
  exact forest.next_fresh member

/-- An insertion adds the next index to the nodes of a forest. -/
theorem of_insert (forest : s.Forest stack es cells) {node : Node} {stack' : List Index}
    {es' : List Expr} (holds : (s.insert node).HoldsAll stack' es' (s.next :: cells)) :
    (s.insert node).Forest stack' es' (s.next :: cells) where
  holds := holds
  distinct := List.nodup_cons.mpr ⟨forest.next_fresh, forest.distinct⟩
  covers := by
    intro j
    rw [List.mem_cons, ← forest.covers j]
    by_cases same : j = s.next
    · simp [Live, get?_insert, same]
    · simp [Live, get?_insert, same]

/-- A new leaf on top of a forest. -/
theorem insert_leaf (forest : s.Forest stack es cells) (d : Fin 10) :
    (s.insert (.leaf d)).Forest (s.next :: stack) (.leaf d :: es) (s.next :: cells) := by
  apply forest.of_insert
  have found : (s.insert (.leaf d)).get? s.next = some (.leaf d) := by
    rw [get?_insert, if_pos rfl]
  exact .cons (.leaf found) (forest.holds.frame fun j member => forest.get?_insert_of_mem _ member)

/-- A new operator in place of the two topmost entries of a forest, which become its operands. -/
theorem insert_operator {l r : Index} {left right : Expr}
    (forest : s.Forest (l :: r :: stack) (left :: right :: es) cells) (op : Operator) :
    (s.insert (.operator op l r)).Forest (s.next :: stack) (.node op left right :: es)
      (s.next :: cells) := by
  apply forest.of_insert
  have found : (s.insert (.operator op l r)).get? s.next = some (.operator op l r) := by
    rw [get?_insert, if_pos rfl]
  -- the operands are looked up after the insertion, where they stand as before
  have kept : (s.insert (.operator op l r)).HoldsAll (l :: r :: stack) (left :: right :: es) cells :=
    forest.holds.frame fun j member => forest.get?_insert_of_mem _ member
  cases kept with
  | @cons _ _ leftCells _ _ _ top below =>
      cases below with
      | @cons _ _ rightCells rest _ _ second below =>
          rw [← List.append_assoc, ← List.cons_append]
          exact .cons (.node found top second) below

/-! ## Pruning -/

/-- Pruning the lowest entry of a forest leaves the forest of the entries above it. -/
theorem prune_last {i : Index} (forest : s.Forest (stack ++ [i]) es cells) :
    ∃ kept, (s.prune [i]).Forest stack (es.take stack.length) kept := by
  obtain ⟨above, lowest, aboveCells, lowestCells, rfl, rfl, kept, last⟩ := forest.holds.unsnoc
  obtain ⟨distinct, _, apart⟩ := List.nodup_append.mp forest.distinct
  -- what the lowest entry reaches is its own nodes, and the entries above it have none of them
  have outside : ∀ j, j ∉ lowestCells → (s.prune [i]).get? j = s.get? j := by
    intro j outside
    apply get?_prune_of_not_reaches
    intro k member path
    obtain rfl := List.mem_singleton.mp member
    exact outside (last.reaches_iff.mp path)
  have inside : ∀ j ∈ lowestCells, (s.prune [i]).get? j = none := by
    intro j member
    exact get?_prune_of_reaches (List.mem_singleton_self i) (last.reaches_iff.mpr member)
  refine ⟨aboveCells, ?_, distinct, ?_⟩
  · rw [kept.length_eq, List.take_left]
    exact kept.frame fun j member => outside j fun lower => apart j member j lower rfl
  · intro j
    by_cases lower : j ∈ lowestCells
    · constructor
      · rintro ⟨_, found⟩
        rw [inside j lower] at found
        exact absurd found (by simp)
      · intro member
        exact absurd rfl (apart j member j lower)
    · rw [Live, outside j lower, ← Live, forest.covers j, List.mem_append]
      exact or_iff_left lower

/-- Pruning entries one by one, the lowest first, leaves the forest of the entries above them. -/
theorem prune_strays {strays : List Index} (forest : s.Forest (stack ++ strays) es cells) :
    ∃ kept, (strays.reverse.foldl (fun store stray => store.prune [stray]) s).Forest stack
      (es.take stack.length) kept := by
  -- the entry above the strays is pruned after them, so the kept part of the stack is arbitrary
  induction strays generalizing stack with
  | nil =>
      rw [List.append_nil] at forest
      rw [forest.holds.length_eq, List.take_length]
      exact ⟨cells, forest⟩
  | cons stray strays ih =>
      rw [← List.singleton_append, ← List.append_assoc] at forest
      obtain ⟨_, below⟩ := ih forest
      obtain ⟨kept, above⟩ := below.prune_last
      rw [List.reverse_cons, List.foldl_append, List.foldl_cons, List.foldl_nil]
      rw [List.take_take, List.length_append, Nat.min_eq_left (Nat.le_add_right _ _)] at above
      exact ⟨kept, above⟩

end Forest

end Store

/-! ## Trees -/

/-- The tree stands for the expression, and its store has no other node. -/
def Tree.Represents (t : Tree) (e : Expr) : Prop :=
  ∃ root cells, t.root = some root ∧ t.store.Holds root e cells ∧ cells.Nodup ∧
    ∀ j, t.store.Live j ↔ j ∈ cells

theorem Store.Forest.represents {s : Store} {i : Index} {e : Expr} {cells : List Index}
    (forest : s.Forest [i] [e] cells) : Tree.Represents { store := s, root := some i } e := by
  obtain ⟨holds, distinct, covers⟩ := forest
  cases holds with
  | cons top below =>
      cases below with
      | nil => rw [List.append_nil] at *; exact ⟨i, _, rfl, top, distinct, covers⟩

/-- The number of live nodes is the number of nodes of the expression. -/
theorem Tree.Represents.size_eq {t : Tree} {e : Expr} (represents : t.Represents e) :
    t.size = e.size := by
  obtain ⟨_, _, _, holds, distinct, covers⟩ := represents
  rw [← holds.length_cells]
  exact Store.count_eq_length distinct covers

end PolishCalc

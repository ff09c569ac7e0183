import PolishCalc.Expr
import PolishCalc.Error

/-!
# The node store

Nodes live in numbered slots and refer to their operands by index. An insertion takes a fresh slot,
a removal empties one, and a slot is never used twice, so an index of a removed node stays dead.
Nothing here assumes that the nodes form a tree: operands may be shared, cyclic or dead.

The view of a store is `Store.get?`; `get?_insert` and `get?_erase` say what each operation does to
it, and `count_insert` and `count_erase` what it does to the number of live nodes. `Store.prune`
removes all that is reachable from the indices of a worklist.
-/

namespace PolishCalc

/-- The number of a slot. -/
abbrev Index := Nat

/-- A stored node: a digit, or an operator with the indices of its two operands. -/
inductive Node where
  | leaf (digit : Fin 10)
  | operator (op : Operator) (left right : Index)
  deriving DecidableEq, Repr

namespace Node

/-- The symbol that a node is written with. -/
def symbol : Node → Symbol
  | leaf d => .digit d
  | operator op _ _ => .operator op

/-- The operands of a node, the left one first. -/
def children? : Node → Option (Index × Index)
  | leaf _ => none
  | operator _ left right => some (left, right)

end Node

/-- Numbered slots, each of which holds a live node or none. -/
structure Store where
  slots : Array (Option Node) := #[]

namespace Store

/-- The store without nodes. -/
def empty : Store := {}

/-- The live node at an index. -/
def get? (s : Store) (i : Index) : Option Node :=
  (s.slots[i]?).join

/-- The number of live nodes. -/
def count (s : Store) : Nat :=
  s.slots.countP Option.isSome

/-- The index that the next insertion takes. -/
def next (s : Store) : Index := s.slots.size

/-- Adds a node under the index `s.next`. -/
def insert (s : Store) (node : Node) : Store :=
  { slots := s.slots.push (some node) }

/-- Removes the node at an index, if it is live. -/
def erase (s : Store) (i : Index) : Store :=
  { slots := s.slots.setIfInBounds i none }

theorem lt_next_of_get? {s : Store} {i : Index} {node : Node} (live : s.get? i = some node) :
    i < s.next := by
  simp only [get?, Option.join_eq_some_iff] at live
  exact (Array.getElem?_eq_some_iff.mp live).1

theorem get?_insert (s : Store) (node : Node) (i : Index) :
    (s.insert node).get? i = if i = s.next then some node else s.get? i := by
  by_cases fresh : i = s.slots.size <;> simp [get?, insert, next, Array.getElem?_push, fresh]

theorem get?_erase (s : Store) (i j : Index) :
    (s.erase i).get? j = if j = i then none else s.get? j := by
  simp only [get?, erase, Array.getElem?_setIfInBounds]
  by_cases same : i = j
  · subst same
    by_cases bound : i < s.slots.size <;> simp [bound]
  · simp [same, Ne.symm same]

theorem count_insert (s : Store) (node : Node) : (s.insert node).count = s.count + 1 := by
  simp [count, insert]

/-- Removing a live node leaves one live node less. -/
theorem count_erase {s : Store} {i : Index} {node : Node} (live : s.get? i = some node) :
    (s.erase i).count + 1 = s.count := by
  have found : s.slots[i]? = some (some node) := by
    simpa only [get?, Option.join_eq_some_iff] using live
  obtain ⟨bound, value⟩ := Array.getElem?_eq_some_iff.mp found
  have positive : 0 < s.slots.countP Option.isSome :=
    Array.countP_pos_iff.mpr ⟨some node, value ▸ Array.getElem_mem bound, rfl⟩
  simp only [count, erase, Array.setIfInBounds, bound, dif_pos, Array.countP_set, value]
  simp
  omega

/-- Removes every live node that can be reached from the worklist through live nodes. Dead and
repeated indices on the worklist are skipped. Each step either removes a node or shortens the
worklist, so it ends on any store. -/
def prune (s : Store) : List Index → Store
  | [] => s
  | i :: rest =>
    match _live : s.get? i with
    | none => s.prune rest
    | some (.leaf _) => (s.erase i).prune rest
    | some (.operator _ left right) => (s.erase i).prune (right :: left :: rest)
termination_by work => (s.count, work.length)
decreasing_by
  · exact Prod.Lex.right _ (by simp)
  all_goals exact Prod.Lex.left _ _ (by have := count_erase _live; omega)

/-- Combines the nodes below an index bottom-up. `fuel` bounds the length of a path; `brokenTree` is
the answer where a path leaves the live nodes or is longer than that. -/
def foldBelow {β : Type} (s : Store) (onLeaf : Fin 10 → β) (onOperator : Operator → β → β → β) :
    (fuel : Nat) → Index → Except ExprError β
  | 0, _ => .error .brokenTree
  | fuel + 1, i =>
    match s.get? i with
    | none => .error .brokenTree
    | some (.leaf d) => .ok (onLeaf d)
    | some (.operator op left right) => do
      let leftValue ← s.foldBelow onLeaf onOperator fuel left
      let rightValue ← s.foldBelow onLeaf onOperator fuel right
      return onOperator op leftValue rightValue

/-- Combines the nodes below an index bottom-up. A path without repetition has at most as many nodes
as there are slots, so on a tree the bound is never reached. -/
def fold {β : Type} (s : Store) (onLeaf : Fin 10 → β) (onOperator : Operator → β → β → β)
    (i : Index) : Except ExprError β :=
  s.foldBelow onLeaf onOperator s.next i

end Store

end PolishCalc

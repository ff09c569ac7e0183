import PolishCalc.Proofs.Forest

/-!
# Paths

Going down from an index, left or right at each operator.

* **reading off** — the nodes met on the way down from an index are those of the expression that
  stands below it, at every depth (`Holds.nodeBelow?_symbol`);
* **one path** — where no node belongs to an expression twice, each of its nodes is at the end of
  exactly one path (`Holds.existsUnique_path`);
* **all paths** — `Expr.paths` lists the paths to the nodes of an expression in preorder, and with
  them those of a tree (`Tree.Represents.preordered`). The longest of them makes the depth
  (`Expr.exists_longest_path`).
-/

namespace PolishCalc

open PolishCalc.Tree (Side)

/-- The part of an expression at the end of a path. -/
def Expr.at? : Expr → List Side → Option Expr
  | e, [] => some e
  | .leaf _, _ :: _ => none
  | .node _ left right, side :: path =>
    (match side with | .left => left | .right => right).at? path

namespace Store

/-- The index at the end of a path. -/
def indexBelow? (s : Store) : Index → List Side → Option Index
  | i, [] => some i
  | i, side :: path =>
    match s.get? i with
    | some (.operator _ left right) =>
      s.indexBelow? (match side with | .left => left | .right => right) path
    | _ => none

theorem indexBelow?_of_leaf {s : Store} {i : Index} {d : Fin 10} (found : s.get? i = some (.leaf d))
    (side : Side) (path : List Side) : s.indexBelow? i (side :: path) = none := by
  simp only [indexBelow?, found]

theorem indexBelow?_of_operator {s : Store} {i l r : Index} {op : Operator}
    (found : s.get? i = some (.operator op l r)) (side : Side) (path : List Side) :
    s.indexBelow? i (side :: path) =
      s.indexBelow? (match side with | .left => l | .right => r) path := by
  simp only [indexBelow?, found]

/-- The node at the end of a path is the one at the index where the path ends. -/
theorem nodeBelow?_eq (s : Store) (i : Index) (path : List Side) :
    Tree.nodeBelow? s i path = (s.indexBelow? i path).bind s.get? := by
  induction path generalizing i with
  | nil => rfl
  | cons side path ih =>
      match found : s.get? i with
      | none => simp only [Tree.nodeBelow?, indexBelow?, found, Option.bind_none]
      | some (.leaf d) =>
          rw [indexBelow?_of_leaf found]
          simp only [Tree.nodeBelow?, found, Option.bind_none]
      | some (.operator op l r) =>
          rw [indexBelow?_of_operator found, ← ih]
          cases side with
          | left => simp only [Tree.nodeBelow?, found]
          | right => simp only [Tree.nodeBelow?, found]

/-- The nodes on the way down are those of the expression. -/
theorem Holds.nodeBelow?_symbol {s : Store} {i : Index} {e : Expr} {cells : List Index}
    (holds : s.Holds i e cells) (path : List Side) :
    (Tree.nodeBelow? s i path).map Node.symbol = (e.at? path).map Expr.symbol := by
  induction path generalizing i e cells with
  | nil =>
      rw [Tree.nodeBelow?, Expr.at?.eq_def]
      cases holds with
      | leaf found => rw [found]; rfl
      | node found _ _ => rw [found]; rfl
  | cons side path ih =>
      cases holds with
      | leaf found => simp only [Tree.nodeBelow?, found, Expr.at?, Option.map_none]
      | node found left right =>
          simp only [Tree.nodeBelow?, found, Expr.at?]
          cases side with
          | left => exact ih left
          | right => exact ih right

/-! ## One path -/

theorem Holds.mem_of_path {s : Store} {i j : Index} {e : Expr} {cells : List Index}
    (holds : s.Holds i e cells) {path : List Side} (ends : s.indexBelow? i path = some j) :
    j ∈ cells := by
  induction holds generalizing path with
  | leaf found =>
      cases path with
      | nil => exact List.mem_singleton.mpr (Option.some.inj ends).symm
      | cons side path =>
          rw [indexBelow?_of_leaf found] at ends
          cases ends
  | node found _ _ ihLeft ihRight =>
      cases path with
      | nil => exact List.mem_cons.mpr (.inl (Option.some.inj ends).symm)
      | cons side path =>
          rw [indexBelow?_of_operator found] at ends
          apply List.mem_cons_of_mem
          cases side with
          | left => exact List.mem_append_left _ (ihLeft ends)
          | right => exact List.mem_append_right _ (ihRight ends)

theorem Holds.exists_path {s : Store} {i j : Index} {e : Expr} {cells : List Index}
    (holds : s.Holds i e cells) (member : j ∈ cells) : ∃ path, s.indexBelow? i path = some j := by
  induction holds with
  | leaf _ =>
      obtain rfl := List.mem_singleton.mp member
      exact ⟨[], rfl⟩
  | node found _ _ ihLeft ihRight =>
      rcases List.mem_cons.mp member with rfl | below
      · exact ⟨[], rfl⟩
      · rcases List.mem_append.mp below with inLeft | inRight
        · obtain ⟨path, ends⟩ := ihLeft inLeft
          exact ⟨.left :: path, (indexBelow?_of_operator found .left path).trans ends⟩
        · obtain ⟨path, ends⟩ := ihRight inRight
          exact ⟨.right :: path, (indexBelow?_of_operator found .right path).trans ends⟩

theorem Holds.path_unique {s : Store} {i j : Index} {e : Expr} {cells : List Index}
    (holds : s.Holds i e cells) (distinct : cells.Nodup) {path path' : List Side}
    (ends : s.indexBelow? i path = some j) (ends' : s.indexBelow? i path' = some j) :
    path = path' := by
  induction holds generalizing path path' with
  | leaf found =>
      cases path with
      | cons side path => rw [indexBelow?_of_leaf found] at ends; cases ends
      | nil =>
          cases path' with
          | cons side path' => rw [indexBelow?_of_leaf found] at ends'; cases ends'
          | nil => rfl
  | @node i l r op _ _ leftCells rightCells found left right ihLeft ihRight =>
      obtain ⟨fresh, distinct⟩ := List.nodup_cons.mp distinct
      obtain ⟨distinctLeft, distinctRight, apart⟩ := List.nodup_append.mp distinct
      -- a path that goes down at all does not come back to its start
      have proper : ∀ side path, s.indexBelow? i (side :: path) ≠ some i := by
        intro side path ends
        rw [indexBelow?_of_operator found] at ends
        cases side with
        | left => exact fresh (List.mem_append_left _ (left.mem_of_path ends))
        | right => exact fresh (List.mem_append_right _ (right.mem_of_path ends))
      cases path with
      | nil =>
          obtain rfl := Option.some.inj ends
          cases path' with
          | nil => rfl
          | cons side' path' => exact absurd ends' (proper side' path')
      | cons side path =>
          cases path' with
          | nil =>
              obtain rfl := Option.some.inj ends'
              exact absurd ends (proper side path)
          | cons side' path' =>
              rw [indexBelow?_of_operator found] at ends ends'
              cases side <;> cases side'
              case left.left => rw [ihLeft distinctLeft ends ends']
              case right.right => rw [ihRight distinctRight ends ends']
              case left.right =>
                exact absurd rfl (apart j (left.mem_of_path ends) j (right.mem_of_path ends'))
              case right.left =>
                exact absurd rfl (apart j (left.mem_of_path ends') j (right.mem_of_path ends))

/-- Each node of an expression is at the end of exactly one path. -/
theorem Holds.existsUnique_path {s : Store} {i j : Index} {e : Expr} {cells : List Index}
    (holds : s.Holds i e cells) (distinct : cells.Nodup) (member : j ∈ cells) :
    ∃ path, s.indexBelow? i path = some j ∧
      ∀ path', s.indexBelow? i path' = some j → path' = path := by
  obtain ⟨path, ends⟩ := holds.exists_path member
  exact ⟨path, ends, fun path' ends' => holds.path_unique distinct ends' ends⟩

end Store

/-- The nodes on the way down from the root are those of the expression. -/
theorem Tree.Represents.nodeAt?_symbol {t : Tree} {e : Expr} (represents : t.Represents e)
    (path : List Side) : (t.nodeAt? path).map Node.symbol = (e.at? path).map Expr.symbol := by
  obtain ⟨root, _, rooted, holds, _, _⟩ := represents
  rw [Tree.nodeAt?, rooted, Option.bind_some]
  exact holds.nodeBelow?_symbol path

/-! ## All paths -/

/-- A step to the left comes before a step to the right. -/
def Tree.Side.Before (side side' : Side) : Prop :=
  side = .left ∧ side' = .right

/-- The paths to all nodes of a tree, in preorder: a node before those below it, and those below its
left operand before those below its right one. -/
structure Tree.Preordered (t : Tree) (paths : List (List Side)) : Prop where
  mem_iff : ∀ path, path ∈ paths ↔ ∃ node, t.nodeAt? path = some node
  sorted : paths.Pairwise (List.Lex Side.Before)

namespace Expr

/-- The paths to the nodes of an expression, in preorder. -/
def paths : Expr → List (List Side)
  | leaf _ => [[]]
  | node _ left right =>
    [] :: (left.paths.map (Side.left :: ·) ++ right.paths.map (Side.right :: ·))

theorem length_paths (e : Expr) : e.paths.length = e.size := by
  induction e with
  | leaf d => rfl
  | node op left right ihLeft ihRight =>
      rw [paths, List.length_cons, List.length_append, List.length_map, List.length_map, ihLeft,
        ihRight, size]
      omega

theorem mem_paths_iff (e : Expr) (path : List Side) :
    path ∈ e.paths ↔ ∃ part, e.at? path = some part := by
  induction e generalizing path with
  | leaf d =>
      cases path with
      | nil => exact iff_of_true List.mem_cons_self ⟨_, rfl⟩
      | cons side path => simp [paths, at?]
  | node op left right ihLeft ihRight =>
      cases path with
      | nil => exact iff_of_true List.mem_cons_self ⟨_, rfl⟩
      | cons side path =>
          cases side with
          | left => simp [paths, at?, ihLeft]
          | right => simp [paths, at?, ihRight]

/-- Only the first path does not go down. -/
theorem exists_paths_eq (e : Expr) :
    ∃ below, e.paths = [] :: below ∧ ∀ path ∈ below, path ≠ [] := by
  cases e with
  | leaf d => exact ⟨[], rfl, fun path member => absurd member List.not_mem_nil⟩
  | node op left right =>
      refine ⟨_, rfl, ?_⟩
      rintro _ member rfl
      simp at member

theorem pairwise_paths (e : Expr) : e.paths.Pairwise (List.Lex Side.Before) := by
  induction e with
  | leaf d => exact List.pairwise_singleton _ _
  | node op left right ihLeft ihRight =>
      rw [paths, List.pairwise_cons, List.pairwise_append, List.pairwise_map, List.pairwise_map]
      refine ⟨?_, ihLeft.imp List.Lex.cons, ihRight.imp List.Lex.cons, ?_⟩
      · intro path member
        rcases List.mem_append.mp member with inLeft | inRight
        · obtain ⟨path, -, rfl⟩ := List.mem_map.mp inLeft
          exact .nil
        · obtain ⟨path, -, rfl⟩ := List.mem_map.mp inRight
          exact .nil
      · intro path inLeft path' inRight
        obtain ⟨path, -, rfl⟩ := List.mem_map.mp inLeft
        obtain ⟨path', -, rfl⟩ := List.mem_map.mp inRight
        exact .rel ⟨rfl, rfl⟩

theorem length_lt_depth {e : Expr} {path : List Side} (member : path ∈ e.paths) :
    path.length < e.depth := by
  induction e generalizing path with
  | leaf d =>
      obtain rfl := List.mem_singleton.mp member
      exact Nat.one_pos
  | node op left right ihLeft ihRight =>
      rw [depth]
      rcases List.mem_cons.mp member with rfl | below
      · rw [List.length_nil]
        omega
      · rcases List.mem_append.mp below with inLeft | inRight
        · obtain ⟨path, memberLeft, rfl⟩ := List.mem_map.mp inLeft
          have := ihLeft memberLeft
          rw [List.length_cons]
          omega
        · obtain ⟨path, memberRight, rfl⟩ := List.mem_map.mp inRight
          have := ihRight memberRight
          rw [List.length_cons]
          omega

/-- The depth is the number of nodes on a longest path. -/
theorem exists_longest_path (e : Expr) : ∃ path ∈ e.paths, path.length + 1 = e.depth := by
  induction e with
  | leaf d => exact ⟨[], List.mem_cons_self, rfl⟩
  | node op left right ihLeft ihRight =>
      obtain ⟨pathLeft, memberLeft, longestLeft⟩ := ihLeft
      obtain ⟨pathRight, memberRight, longestRight⟩ := ihRight
      rw [depth]
      rcases Nat.le_total right.depth left.depth with deeper | deeper
      · refine ⟨.left :: pathLeft, ?_, ?_⟩
        · exact List.mem_cons_of_mem _
            (List.mem_append_left _ (List.mem_map_of_mem memberLeft))
        · rw [List.length_cons]
          omega
      · refine ⟨.right :: pathRight, ?_, ?_⟩
        · exact List.mem_cons_of_mem _
            (List.mem_append_right _ (List.mem_map_of_mem memberRight))
        · rw [List.length_cons]
          omega

end Expr

theorem Tree.Represents.mem_paths_iff {t : Tree} {e : Expr} (represents : t.Represents e)
    (path : List Side) : path ∈ e.paths ↔ ∃ node, t.nodeAt? path = some node := by
  have symbols := congrArg Option.isSome (represents.nodeAt?_symbol path)
  rw [Option.isSome_map, Option.isSome_map] at symbols
  rw [e.mem_paths_iff, ← Option.isSome_iff_exists, ← Option.isSome_iff_exists, symbols]

theorem Tree.Represents.preordered {t : Tree} {e : Expr} (represents : t.Represents e) :
    t.Preordered e.paths :=
  ⟨represents.mem_paths_iff, e.pairwise_paths⟩

end PolishCalc

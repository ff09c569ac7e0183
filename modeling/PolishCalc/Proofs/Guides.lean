import PolishCalc.Proofs.Drawing
import PolishCalc.Proofs.Interleaving
import PolishCalc.Proofs.Path

/-!
# Guides of a drawing

What stands before the symbol of a line, read off the path to its node alone.

* **one line** — `Drawing.guide path`: a bar or a gap for each step but the last one, and a branch
  or a corner for the last one. `Drawing.Guided` says that a line is the guide of its path and one
  symbol;
* **all lines** — hanging a drawing on a step puts this step before all its paths
  (`Drawing.guided_hang`), so the lines of a drawing go with the paths to its nodes
  (`Expr.drawing_guided`);
* **texts** — the drawing of a tree that was read has one line for each node, in preorder, and its
  longest guide goes with the depth (`Tree.drawing_guides`).
-/

namespace PolishCalc

open PolishCalc.Tree (Side)

namespace Drawing

/-! ## Guides -/

/-- Past a left operand a bar leads on to the right one; past a right operand there is nothing. -/
def passed : Side → List Char
  | .left => ['\u2502', ' ', ' ', ' ']
  | .right => [' ', ' ', ' ', ' ']

/-- A left operand is reached by a branch, a right one by a corner. -/
def reached : Side → List Char
  | .left => ['\u251c', '\u2500', '\u2500', ' ']
  | .right => ['\u2514', '\u2500', '\u2500', ' ']

/-- What stands before the symbol at the end of a path. -/
def guide (path : List Side) : List Char :=
  path.dropLast.flatMap passed ++ path.getLast?.elim [] reached

theorem guide_singleton (side : Side) : guide [side] = reached side := rfl

theorem guide_cons (side : Side) {path : List Side} (proper : path ≠ []) :
    guide (side :: path) = passed side ++ guide path := by
  obtain ⟨next, rest, rfl⟩ := List.exists_cons_of_ne_nil proper
  rw [guide, List.dropLast_cons_cons, List.flatMap_cons, List.append_assoc, List.getLast?_cons_cons,
    guide]

theorem length_passed (side : Side) : (passed side).length = 4 := by
  cases side <;> rfl

theorem length_guide (path : List Side) : (guide path).length = 4 * path.length := by
  induction path with
  | nil => rfl
  | cons side path ih =>
      by_cases last : path = []
      · rw [last, guide_singleton]
        cases side <;> rfl
      · rw [guide_cons side last, List.length_append, length_passed, ih, List.length_cons]
        omega

/-! ## Lines -/

/-- The line is the guide of a path with the symbol at its end. -/
def Guided (symbolAt : List Side → Option Symbol) (path : List Side) (line : String) : Prop :=
  ∃ symbol, symbolAt path = some symbol ∧ line.toList = guide path ++ [symbol.toChar]

/-- Hanging a drawing on a step puts this step before all paths. -/
theorem guided_hang (side : Side) {symbolAt : List Side → Option Symbol} {first later : String}
    (firstMark : first.toList = reached side) (laterMark : later.toList = passed side)
    {below : List (List Side)} {lines : List String} (proper : ∀ path ∈ below, path ≠ [])
    (guided : List.Forall₂ (Guided fun path => symbolAt (side :: path)) ([] :: below) lines) :
    List.Forall₂ (Guided symbolAt) (([] :: below).map (side :: ·)) (hang first later lines) := by
  cases guided with
  | cons head tail =>
      refine .cons ?_ ?_
      · obtain ⟨symbol, found, shown⟩ := head
        refine ⟨symbol, found, ?_⟩
        rw [String.toList_append, firstMark, shown, guide_singleton]
        rfl
      · rw [List.forall₂_map_left_iff, List.forall₂_map_right_iff]
        refine ((List.forall₂_and_left _ _).mpr ⟨proper, tail⟩).imp ?_
        rintro path line ⟨goesDown, symbol, found, shown⟩
        refine ⟨symbol, found, ?_⟩
        rw [String.toList_append, laterMark, shown, guide_cons side goesDown, List.append_assoc]

theorem guided_root {symbolAt : List Side → Option Symbol} (symbol : Symbol)
    (found : symbolAt [] = some symbol) : Guided symbolAt [] symbol.toChar.toString :=
  ⟨symbol, found, String.toList_singleton _⟩

end Drawing

/-- The lines of the drawing of an expression go with the paths to its nodes. -/
theorem Expr.drawing_guided (e : Expr) :
    List.Forall₂ (Drawing.Guided fun path => (e.at? path).map Expr.symbol) e.paths e.drawing := by
  induction e with
  | leaf d => exact .cons (Drawing.guided_root (.digit d) rfl) .nil
  | node op left right ihLeft ihRight =>
      obtain ⟨belowLeft, pathsLeft, properLeft⟩ := left.exists_paths_eq
      obtain ⟨belowRight, pathsRight, properRight⟩ := right.exists_paths_eq
      rw [pathsLeft] at ihLeft
      rw [pathsRight] at ihRight
      rw [paths, pathsLeft, pathsRight]
      -- below an operator a path begins with the step to one of the two operands
      exact .cons (Drawing.guided_root (.operator op) rfl) <| List.rel_append
        (Drawing.guided_hang .left (by decide) (by decide) properLeft ihLeft)
        (Drawing.guided_hang .right (by decide) (by decide) properRight ihRight)

/-! ## Texts -/

/-- The drawing of a tree that was read has one line for each node, in preorder. A line is the guide
of the path to its node, with the symbol of the node, so that the last characters of the lines are
the prefix form. The longest guide has four characters for each step of a longest path. -/
theorem Tree.drawing_guides {strict : Bool} {text : String} {t : Tree}
    (success : Tree.read strict text = .ok t) :
    ∃ paths lines drawn form depth, t.Preordered paths ∧ t.drawingText = .ok drawn ∧
      drawn.toList = lines.flatMap (fun line => line.toList ++ ['\n']) ∧ lines.length = t.size ∧
      List.Forall₂ (Drawing.Guided fun path => (t.nodeAt? path).map Node.symbol) paths lines ∧
      t.render .preorder = .ok form ∧ List.Forall₂ Drawing.Shows lines form.toList ∧
      t.depth = .ok depth ∧
      (∀ path ∈ paths, (Drawing.guide path).length ≤ 4 * (depth - 1)) ∧
      ∃ path ∈ paths, (Drawing.guide path).length = 4 * (depth - 1) := by
  obtain ⟨e, _, _, represents, _⟩ := represents_of_read success
  refine ⟨e.paths, e.drawing, String.join (e.drawing.map (· ++ "\n")), _, e.depth,
    represents.preordered, ?_, ?_, ?_, ?_, represents.render_eq .preorder, ?_,
    represents.depth_eq, ?_, ?_⟩
  · rw [drawingText, represents.drawing_eq]
    rfl
  · rw [String.toList_join, List.flatMap_map]
    exact List.flatMap_congr fun line _ => String.toList_append
  · rw [← e.drawing_guided.length_eq, e.length_paths, represents.size_eq]
  · simp only [represents.nodeAt?_symbol]
    exact e.drawing_guided
  · rw [String.toList_ofList]
    exact e.drawing_shows
  · intro path member
    have := Expr.length_lt_depth member
    rw [Drawing.length_guide]
    omega
  · obtain ⟨path, member, longest⟩ := e.exists_longest_path
    refine ⟨path, member, ?_⟩
    rw [Drawing.length_guide]
    omega

/-- A sum to the left of a digit: below the sum the bar leads on to the digit. -/
theorem Tree.drawing_guides_sum :
    ∃ t, Tree.read true "-+123" = .ok t ∧
      t.drawingText = .ok "-\n├── +\n│   ├── 1\n│   └── 2\n└── 3\n" ∧
      ∃ paths lines depth, t.Preordered paths ∧ lines.length = 5 ∧
        List.Forall₂ (Drawing.Guided fun path => (t.nodeAt? path).map Node.symbol) paths lines ∧
        List.Forall₂ Drawing.Shows lines "-+123".toList ∧ t.depth = .ok depth ∧
        ∃ path ∈ paths, (Drawing.guide path).length = 4 * (depth - 1) := by
  have success : ∃ t, Tree.read true "-+123" = .ok t ∧ t.size = 5 ∧
      t.drawingText = .ok "-\n├── +\n│   ├── 1\n│   └── 2\n└── 3\n" ∧
      t.render .preorder = .ok "-+123" :=
    ⟨_, rfl, by decide +kernel, by decide +kernel, by decide +kernel⟩
  obtain ⟨t, success, size, drawn, form⟩ := success
  obtain ⟨paths, lines, _, form', depth, preordered, _, _, length, guided, form'', shows, deep, _,
    longest⟩ := drawing_guides success
  obtain rfl : form' = "-+123" := Except.ok.inj (form''.symm.trans form)
  exact ⟨t, success, drawn, paths, lines, depth, preordered, length.trans size, guided, shows, deep,
    longest⟩

end PolishCalc

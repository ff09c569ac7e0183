import Mathlib.Logic.Function.Iterate
import PolishCalc.Proofs.Forest
import PolishCalc.Tree.Scan

/-!
# Pruning

Pruning as a loop, and pruning several subtrees one after another. Nothing here needs a tree: the
operands of a store may be shared, cyclic or dead.

* **the loop** — `Pruning.pass` takes one index off the worklist. Each pass leaves less to do
  (`Pruning.remaining_pass`) and does not change what the loop ends with (`Pruning.finished_pass`),
  so the loop ends, after at most two passes for each live node and one for each index
  (`Pruning.exists_passes`);
* **several roots** — what a pruning leaves can be reached as before (`Store.reaches_prune_iff`), so
  pruning at one root after another removes what pruning at all of them at once does
  (`Store.get?_pruneEach`), and the order of the roots does not matter;
* **forests** — of disjoint trees, those that are not pruned are left
  (`Store.Forest.live_pruneEach_iff`).
-/

namespace PolishCalc

/-! ## The loop -/

namespace Store

theorem prune_dead {s : Store} {i : Index} (dead : s.get? i = none) (rest : List Index) :
    s.prune (i :: rest) = s.prune rest := by
  rw [prune.eq_def]
  dsimp only
  split
  · rfl
  · next found => rw [dead] at found; cases found
  · next found => rw [dead] at found; cases found

theorem prune_live {s : Store} {i : Index} {node : Node} (live : s.get? i = some node)
    (rest : List Index) :
    s.prune (i :: rest) = (s.erase i).prune (node.operands.reverse ++ rest) := by
  rw [prune.eq_def]
  dsimp only
  split
  · next dead => rw [dead] at live; cases live
  · next found =>
    rw [found] at live
    cases live
    rfl
  · next found =>
    rw [found] at live
    cases live
    rfl

end Store

/-- The loop that prunes a tree: the tree so far, and the indices that it has still to look at. -/
structure Pruning where
  tree : Tree
  work : List Index

namespace Pruning

/-- One pass of the loop. The next index is taken off the worklist; if there is a live node, it is
removed, and its operands are to be looked at, the right one first. -/
def pass (state : Pruning) : Pruning :=
  match state.work with
  | [] => state
  | i :: rest =>
    match state.tree.store.get? i with
    | none => { state with work := rest }
    | some node =>
      { tree := { state.tree with store := state.tree.store.erase i }
        work := node.operands.reverse ++ rest }

/-- What the loop is to end with: nothing but the store is changed. -/
def finished (state : Pruning) : Pruning where
  tree := { state.tree with store := state.tree.store.prune state.work }
  work := []

/-- A bound on the passes to come. A live node costs two of them, since it may put two indices on
the worklist when it is removed. -/
def remaining (state : Pruning) : Nat :=
  2 * state.tree.size + state.work.length

/-- What a pass does while there is work. -/
theorem pass_cases {state : Pruning} {i : Index} {rest : List Index}
    (work : state.work = i :: rest) :
    (state.tree.store.get? i = none ∧ state.pass = { state with work := rest }) ∨
      ∃ node, state.tree.store.get? i = some node ∧
        state.pass =
          { tree := { state.tree with store := state.tree.store.erase i }
            work := node.operands.reverse ++ rest } := by
  cases found : state.tree.store.get? i with
  | none => exact .inl ⟨rfl, by simp only [pass, work, found]⟩
  | some node => exact .inr ⟨node, rfl, by simp only [pass, work, found]⟩

theorem length_operands_le (node : Node) : node.operands.length ≤ 2 := by
  cases node with
  | leaf => exact Nat.zero_le 2
  | operator => exact Nat.le_refl 2

/-- A pass leaves less to do. -/
theorem remaining_pass {state : Pruning} (busy : state.work ≠ []) :
    state.pass.remaining < state.remaining := by
  obtain ⟨i, rest, work⟩ := List.exists_cons_of_ne_nil busy
  rcases pass_cases work with ⟨_, passed⟩ | ⟨node, live, passed⟩
  · simp only [passed, remaining, work, List.length_cons]
    omega
  · have fewer := Store.count_erase live
    have few := length_operands_le node
    simp only [passed, remaining, Tree.size, work, List.length_cons, List.length_append,
      List.length_reverse]
    omega

/-- A pass does not change what the loop is to end with. -/
theorem finished_pass (state : Pruning) : state.pass.finished = state.finished := by
  cases work : state.work with
  | nil => simp only [pass, work]
  | cons i rest =>
      rcases pass_cases work with ⟨dead, passed⟩ | ⟨node, live, passed⟩
      · rw [passed]
        simp only [finished, work, Store.prune_dead dead]
      · rw [passed]
        simp only [finished, work, Store.prune_live live]

/-- The loop ends, and with the pruned tree. -/
theorem exists_passes (state : Pruning) :
    ∃ passes ≤ state.remaining, pass^[passes] state = state.finished := by
  induction bound : state.remaining using Nat.strongRecOn generalizing state with
  | ind n ih =>
      by_cases idle : state.work = []
      · refine ⟨0, Nat.zero_le n, ?_⟩
        obtain ⟨tree, work⟩ := state
        obtain rfl : work = [] := idle
        simp only [Function.iterate_zero, id_eq, finished, Store.prune]
      · have less := remaining_pass idle
        rw [bound] at less
        obtain ⟨passes, few, ended⟩ := ih _ less state.pass rfl
        refine ⟨passes + 1, by omega, ?_⟩
        rw [Function.iterate_succ_apply, ended, finished_pass]

end Pruning

/-! ## Several roots -/

namespace Store

theorem Reaches.trans {s : Store} {i j k : Index} (first : s.Reaches i j) (second : s.Reaches j k) :
    s.Reaches i k := by
  induction first with
  | self _ => exact second
  | step found operand _ ih => exact .step found operand (ih second)

/-- What is left by a pruning can be reached as before. -/
theorem reaches_prune_iff {s : Store} {work : List Index} {k j : Index} :
    (s.prune work).Reaches k j ↔ s.Reaches k j ∧ ∀ i ∈ work, ¬ s.Reaches i j := by
  have kept : ∀ {m : Index} {node : Node}, (s.prune work).get? m = some node →
      s.get? m = some node ∧ ∀ i ∈ work, ¬ s.Reaches i m := by
    classical
    intro m node found
    rw [get?_prune] at found
    split at found
    · cases found
    · next apart => exact ⟨found, fun i member path => apart ⟨i, member, path⟩⟩
  constructor
  · intro path
    induction path with
    | self found => exact ⟨.self (kept found).1, (kept found).2⟩
    | step found operand _ ih => exact ⟨.step (kept found).1 operand ih.1, ih.2⟩
  · rintro ⟨path, apart⟩
    induction path with
    | self found => exact .self ((get?_prune_of_not_reaches apart).trans found)
    | @step m _ _ _ found operand path ih =>
        -- whatever reaches the start of a path reaches its end
        have start : ∀ i ∈ work, ¬ s.Reaches i m := fun i member before =>
          apart i member (before.trans (.step found operand path))
        exact .step ((get?_prune_of_not_reaches start).trans found) operand (ih apart)

/-- Prunes at one root after another. -/
def pruneEach (s : Store) (roots : List Index) : Store :=
  roots.foldl (fun store root => store.prune [root]) s

open Classical in
/-- Pruning at one root after another removes exactly what can be reached from one of them. -/
theorem get?_pruneEach (s : Store) (roots : List Index) (j : Index) :
    (s.pruneEach roots).get? j = if ∃ i ∈ roots, s.Reaches i j then none else s.get? j := by
  induction roots generalizing s with
  | nil => simp [pruneEach]
  | cons root roots ih =>
      have first : (s.pruneEach (root :: roots)) = (s.prune [root]).pruneEach roots := rfl
      rw [first, ih, get?_prune]
      by_cases atFirst : s.Reaches root j
      · simp [atFirst, reaches_prune_iff]
      · simp [atFirst, reaches_prune_iff]

theorem get?_pruneEach_of_reaches {s : Store} {roots : List Index} {j : Index}
    (reached : ∃ i ∈ roots, s.Reaches i j) : (s.pruneEach roots).get? j = none := by
  classical
  rw [get?_pruneEach, if_pos reached]

theorem get?_pruneEach_of_not_reaches {s : Store} {roots : List Index} {j : Index}
    (apart : ∀ i ∈ roots, ¬ s.Reaches i j) : (s.pruneEach roots).get? j = s.get? j := by
  classical
  rw [get?_pruneEach, if_neg]
  rintro ⟨i, member, path⟩
  exact apart i member path

/-- Neither the order of the roots nor a repetition among them matters. -/
theorem get?_pruneEach_congr {s : Store} {roots roots' : List Index}
    (same : ∀ i, i ∈ roots' ↔ i ∈ roots) (j : Index) :
    (s.pruneEach roots').get? j = (s.pruneEach roots).get? j := by
  classical
  rw [get?_pruneEach, get?_pruneEach]
  simp only [same]

/-! ## Forests -/

theorem HoldsAll.mem_iff {s : Store} {stack cells : List Index} {es : List Expr}
    (holds : s.HoldsAll stack es cells) (j : Index) :
    j ∈ cells ↔ ∃ i ∈ stack, s.Reaches i j := by
  induction holds with
  | nil => simp
  | cons top _ ih => rw [List.mem_append, ih, ← top.reaches_iff]; simp

/-- A node belongs to one entry of a forest only. -/
theorem HoldsAll.owner_unique {s : Store} {stack cells : List Index} {es : List Expr}
    (holds : s.HoldsAll stack es cells) (distinct : cells.Nodup) {i k j : Index}
    (first : i ∈ stack) (second : k ∈ stack) (fromFirst : s.Reaches i j)
    (fromSecond : s.Reaches k j) : i = k := by
  induction holds with
  | nil => exact absurd first List.not_mem_nil
  | @cons top _ own rest stack _ above below ih =>
      obtain ⟨_, distinctBelow, apart⟩ := List.nodup_append.mp distinct
      -- the nodes of the topmost entry are none of the others
      have outside : ∀ m ∈ stack, s.Reaches m j → j ∉ own := by
        intro m member path inside
        exact apart j inside j ((below.mem_iff j).mpr ⟨m, member, path⟩) rfl
      rcases List.mem_cons.mp first with rfl | firstBelow
      · rcases List.mem_cons.mp second with rfl | secondBelow
        · rfl
        · exact absurd (above.reaches_iff.mp fromFirst) (outside k secondBelow fromSecond)
      · rcases List.mem_cons.mp second with rfl | secondBelow
        · exact absurd (above.reaches_iff.mp fromSecond) (outside i firstBelow fromFirst)
        · exact ih distinctBelow firstBelow secondBelow

/-- Of the disjoint trees of a forest, those that are not pruned are left as a whole, and nothing
else is. -/
theorem Forest.live_pruneEach_iff {s : Store} {stack cells : List Index} {es : List Expr}
    (forest : s.Forest stack es cells) {roots : List Index} (entries : roots ⊆ stack) (j : Index) :
    (s.pruneEach roots).Live j ↔ ∃ k ∈ stack, k ∉ roots ∧ s.Reaches k j := by
  classical
  constructor
  · rintro ⟨node, found⟩
    rw [get?_pruneEach] at found
    split at found
    · cases found
    · next apart =>
      have member : j ∈ cells := (forest.covers j).mp ⟨node, found⟩
      obtain ⟨k, entry, path⟩ := (forest.holds.mem_iff j).mp member
      exact ⟨k, entry, fun pruned => apart ⟨k, pruned, path⟩, path⟩
  · rintro ⟨k, entry, kept, path⟩
    have apart : ∀ i ∈ roots, ¬ s.Reaches i j := by
      intro i pruned path'
      have same := forest.holds.owner_unique forest.distinct (entries pruned) entry path' path
      exact kept (same ▸ pruned)
    rw [Live, get?_pruneEach_of_not_reaches apart]
    exact path.live_end

end Store

namespace Tree

/-- Pruning, whatever the store holds. The loop ends, and changes nothing of the tree but the nodes;
what can be reached from the index is removed, and every other entry is as before. Prunings one
after another remove what can be reached from one of the roots; in a forest they leave exactly the
trees of the other entries, in whatever order and however often the roots are pruned. Lenient
reading makes such a sequence of prunings. -/
theorem pruning_exact (t : Tree) :
    (∀ i, ∃ passes ≤ 2 * t.size + 1,
        Pruning.pass^[passes] { tree := t, work := [i] } =
          { tree := { t with store := t.store.prune [i] }, work := [] }) ∧
      (∀ i j, (t.store.Reaches i j → (t.store.prune [i]).get? j = none) ∧
        (¬ t.store.Reaches i j → (t.store.prune [i]).get? j = t.store.get? j)) ∧
      (∀ roots j,
        ((∃ i ∈ roots, t.store.Reaches i j) → (t.store.pruneEach roots).get? j = none) ∧
        ((∀ i ∈ roots, ¬ t.store.Reaches i j) →
          (t.store.pruneEach roots).get? j = t.store.get? j)) ∧
      (∀ stack es cells, t.store.Forest stack es cells → ∀ roots, roots ⊆ stack →
        (∀ j, (t.store.pruneEach roots).Live j ↔
          ∃ k ∈ stack, k ∉ roots ∧ t.store.Reaches k j) ∧
        ∀ roots', (∀ i, i ∈ roots' ↔ i ∈ roots) → ∀ j,
          (t.store.pruneEach roots').get? j = (t.store.pruneEach roots).get? j) ∧
      ∀ root strays, Scan.finish false { store := t.store, stack := root :: strays } =
        .ok { store := t.store.pruneEach strays.reverse, root := some root } := by
  refine ⟨?_, ?_, ?_, ?_, ?_⟩
  · intro i
    obtain ⟨passes, few, ended⟩ := Pruning.exists_passes { tree := t, work := [i] }
    exact ⟨passes, few, ended⟩
  · intro i j
    refine ⟨?_, ?_⟩
    · intro path
      exact Store.get?_prune_of_reaches (List.mem_singleton_self i) path
    · intro apart
      apply Store.get?_prune_of_not_reaches
      intro k member path
      obtain rfl := List.mem_singleton.mp member
      exact apart path
  · intro roots j
    exact ⟨Store.get?_pruneEach_of_reaches, Store.get?_pruneEach_of_not_reaches⟩
  · intro stack es cells forest roots entries
    refine ⟨forest.live_pruneEach_iff entries, ?_⟩
    intro roots' same j
    exact Store.get?_pruneEach_congr same j
  · intro root strays
    rfl

/-- Two operators on a cycle, one of them its own operand and the other with a dead one, are removed
together, and the leaf beside them is left. Of three trees two are pruned, in either order. -/
theorem pruning_exact_cycle_and_strays :
    let cycle : Tree :=
      { store := { slots := #[some (.operator .add 1 0), some (.operator .mul 0 7),
          some (.leaf 3)] }
        root := some 2 }
    let strays : Tree :=
      { store := { slots := #[some (.leaf 2), some (.leaf 9), some (.operator .sub 1 0),
          some (.leaf 5), some (.leaf 7)] } }
    (cycle.store.Reaches 0 1 ∧ (cycle.store.prune [0]).get? 1 = none) ∧
      (¬ cycle.store.Reaches 0 2 ∧ (cycle.store.prune [0]).get? 2 = some (.leaf 3)) ∧
      strays.store.Forest [4, 3, 2] [.leaf 7, .leaf 5, .node .sub (.leaf 9) (.leaf 2)]
        [4, 3, 2, 1, 0] ∧
      (∀ j, (strays.store.pruneEach [2, 4]).Live j ↔
        ∃ k ∈ [4, 3, 2], k ∉ [2, 4] ∧ strays.store.Reaches k j) ∧
      ∀ j, (strays.store.pruneEach [4, 2]).get? j = (strays.store.pruneEach [2, 4]).get? j := by
  intro cycle strays
  have around : cycle.store.Reaches 0 1 := by
    have first : cycle.store.get? 0 = some (.operator .add 1 0) := rfl
    have second : cycle.store.get? 1 = some (.operator .mul 0 7) := rfl
    exact .step first List.mem_cons_self (.self second)
  have beside : ∀ i j, cycle.store.Reaches i j → i ≠ 2 → j ≠ 2 := by
    intro i j path
    induction path with
    | self _ => exact id
    | @step i child _ _ found operand _ ih =>
        intro other
        apply ih
        match i, Store.lt_next_of_get? found with
        | 0, _ =>
            obtain rfl := Option.some.inj found
            rintro rfl
            exact absurd operand (by decide)
        | 1, _ =>
            obtain rfl := Option.some.inj found
            rintro rfl
            exact absurd operand (by decide)
        | 2, _ => exact absurd rfl other
  have apart : ¬ cycle.store.Reaches 0 2 := fun path => beside 0 2 path (by decide) rfl
  have forest : strays.store.Forest [4, 3, 2]
      [.leaf 7, .leaf 5, .node .sub (.leaf 9) (.leaf 2)] [4, 3, 2, 1, 0] :=
    ((((Store.Forest.empty.insert_leaf 2).insert_leaf 9).insert_operator .sub).insert_leaf
      5).insert_leaf 7
  obtain ⟨_, single, _⟩ := pruning_exact cycle
  obtain ⟨_, _, _, several, _⟩ := pruning_exact strays
  obtain ⟨left, anyOrder⟩ := several _ _ _ forest [2, 4] (by decide)
  exact ⟨⟨around, (single 0 1).1 around⟩, ⟨apart, (single 0 2).2 apart⟩, forest, left,
    anyOrder [4, 2] fun i => (List.Perm.swap 2 4 []).mem_iff⟩

end Tree

end PolishCalc

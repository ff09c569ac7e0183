import PolishCalc.Store

/-!
# Reachability and pruning

What `Store.prune` does, on any store: operands may be shared, cyclic or dead, and the worklist may
name an index twice.

* **counting** — a list that names each live index once is as long as the store counts
  (`count_eq_length`);
* **reachability** — `s.Reaches i j`: a chain of live nodes, each an operand of the one before,
  leads from `i` to `j`;
* **one removal** — what is reachable from a worklist is its first node together with what is still
  reachable, once that node is gone, from its operands and the rest (`reaches_work_iff`);
* **exactness** — pruning removes what is reachable from the worklist and nothing else
  (`get?_prune`).
-/

namespace PolishCalc

/-- The operands of a node, the left one first. -/
def Node.operands : Node → List Index
  | .leaf _ => []
  | .operator _ left right => [left, right]

namespace Store

/-- The index resolves to a node. -/
def Live (s : Store) (i : Index) : Prop := ∃ node, s.get? i = some node

theorem get?_erase_eq_some {s : Store} {i j : Index} {node : Node} :
    (s.erase i).get? j = some node ↔ j ≠ i ∧ s.get? j = some node := by
  rw [get?_erase]
  by_cases same : j = i <;> simp [same]

/-! ## Counting -/

theorem count_eq_zero {s : Store} (dead : ∀ j, ¬ s.Live j) : s.count = 0 := by
  apply Array.countP_eq_zero.mpr
  intro slot member live
  obtain ⟨j, bound, rfl⟩ := Array.mem_iff_getElem.mp member
  obtain ⟨node, value⟩ := Option.isSome_iff_exists.mp live
  have found : s.get? j = some node := by
    rw [get?, Array.getElem?_eq_getElem bound, value]
    rfl
  exact dead j ⟨node, found⟩

/-- If a list names each live index once, its length is the number of live nodes. -/
theorem count_eq_length {s : Store} {cells : List Index} (distinct : cells.Nodup)
    (covers : ∀ j, s.Live j ↔ j ∈ cells) : s.count = cells.length := by
  induction cells generalizing s with
  | nil => exact count_eq_zero fun j live => List.not_mem_nil ((covers j).mp live)
  | cons i rest ih =>
      obtain ⟨node, found⟩ := (covers i).mpr List.mem_cons_self
      obtain ⟨fresh, distinct⟩ := List.nodup_cons.mp distinct
      -- without its first index the list names what is live after one removal
      have covers' : ∀ j, (s.erase i).Live j ↔ j ∈ rest := by
        intro j
        simp only [Live, get?_erase_eq_some, exists_and_left]
        rw [← Live, covers j, List.mem_cons]
        constructor
        · rintro ⟨other, same | member⟩
          · exact absurd same other
          · exact member
        · intro member
          exact ⟨fun same => fresh (same ▸ member), .inr member⟩
      rw [List.length_cons, ← ih distinct covers', count_erase found]

/-! ## Reachability -/

/-- The live node at `j` is reached from `i` through live nodes. -/
inductive Reaches (s : Store) : Index → Index → Prop
  | self {i : Index} {node : Node} : s.get? i = some node → Reaches s i i
  | step {i child j : Index} {node : Node} :
      s.get? i = some node → child ∈ node.operands → Reaches s child j → Reaches s i j

theorem Reaches.live_start {s : Store} {i j : Index} (path : s.Reaches i j) : s.Live i := by
  cases path with
  | self found => exact ⟨_, found⟩
  | step found _ _ => exact ⟨_, found⟩

theorem Reaches.live_end {s : Store} {i j : Index} (path : s.Reaches i j) : s.Live j := by
  induction path with
  | self found => exact ⟨_, found⟩
  | step _ _ _ ih => exact ih

/-- From a live node there is a path to itself and to whatever its operands reach. -/
theorem reaches_iff {s : Store} {i j : Index} {node : Node} (found : s.get? i = some node) :
    s.Reaches i j ↔ j = i ∨ ∃ child ∈ node.operands, s.Reaches child j := by
  constructor
  · intro path
    cases path with
    | self _ => exact .inl rfl
    | @step _ child _ other found' operand path =>
        obtain rfl : other = node := Option.some.inj (found'.symm.trans found)
        exact .inr ⟨child, operand, path⟩
  · rintro (rfl | ⟨child, operand, path⟩)
    · exact .self found
    · exact .step found operand path

/-! ## One removal -/

/-- A removal adds no path, and no path leads to the removed node. -/
theorem Reaches.of_erase {s : Store} {i k j : Index} (path : (s.erase i).Reaches k j) :
    s.Reaches k j ∧ j ≠ i := by
  induction path with
  | self found =>
      obtain ⟨other, found⟩ := get?_erase_eq_some.mp found
      exact ⟨.self found, other⟩
  | step found operand _ ih =>
      exact ⟨.step (get?_erase_eq_some.mp found).2 operand ih.1, ih.2⟩

/-- A path that does not end at the removed node survives the removal, or else the part of it after
the last visit of that node does. -/
theorem Reaches.erase_cases {s : Store} {i k j : Index} {node : Node}
    (removed : s.get? i = some node) (path : s.Reaches k j) :
    j = i ∨ (s.erase i).Reaches k j ∨ ∃ child ∈ node.operands, (s.erase i).Reaches child j := by
  induction path with
  | @self k _ found =>
      by_cases same : k = i
      · exact .inl same
      · exact .inr (.inl (.self (get?_erase_eq_some.mpr ⟨same, found⟩)))
  | @step k child j other found operand _ ih =>
      -- the path is followed from its end, so the first visit that is met is the last one
      rcases ih with atEnd | survives | later
      · exact .inl atEnd
      · by_cases same : k = i
        · subst same
          obtain rfl : other = node := Option.some.inj (found.symm.trans removed)
          exact .inr (.inr ⟨child, operand, survives⟩)
        · exact .inr (.inl (.step (get?_erase_eq_some.mpr ⟨same, found⟩) operand survives))
      · exact .inr (.inr later)

theorem reaches_work_iff {s : Store} {i j : Index} {node : Node} {rest : List Index}
    (removed : s.get? i = some node) :
    (∃ k ∈ i :: rest, s.Reaches k j) ↔
      j = i ∨ ∃ k ∈ node.operands ++ rest, (s.erase i).Reaches k j := by
  constructor
  · rintro ⟨k, member, path⟩
    rcases path.erase_cases removed with atEnd | survives | ⟨child, operand, survives⟩
    · exact .inl atEnd
    · rcases List.mem_cons.mp member with rfl | later
      · -- nothing starts at a removed node
        obtain ⟨_, found⟩ := survives.live_start
        exact absurd rfl (get?_erase_eq_some.mp found).1
      · exact .inr ⟨k, List.mem_append_right _ later, survives⟩
    · exact .inr ⟨child, List.mem_append_left _ operand, survives⟩
  · rintro (rfl | ⟨k, member, path⟩)
    · exact ⟨j, List.mem_cons_self, .self removed⟩
    · rcases List.mem_append.mp member with operand | later
      · exact ⟨i, List.mem_cons_self, .step removed operand path.of_erase.1⟩
      · exact ⟨k, List.mem_cons_of_mem _ later, path.of_erase.1⟩

/-! ## Exactness -/

/-- A removed node and the nodes that one more pass removes, as one condition. -/
theorem get?_erase_of_iff {s : Store} {i j : Index} {gone still : Prop} [Decidable gone]
    [Decidable still] (split : gone ↔ j = i ∨ still) :
    (if still then none else (s.erase i).get? j) = if gone then none else s.get? j := by
  rw [get?_erase]
  by_cases same : j = i <;> by_cases later : still <;> simp [split, same, later]

open Classical in
/-- Pruning removes exactly what can be reached from the worklist. -/
theorem get?_prune (s : Store) (work : List Index) (j : Index) :
    (s.prune work).get? j = if ∃ k ∈ work, s.Reaches k j then none else s.get? j := by
  fun_induction prune s work with
  | case1 s => simp
  | case2 s i rest dead ih =>
      -- nothing is reached from a dead index
      have skipped : (∃ k ∈ i :: rest, s.Reaches k j) ↔ ∃ k ∈ rest, s.Reaches k j := by
        constructor
        · rintro ⟨k, member, path⟩
          rcases List.mem_cons.mp member with rfl | later
          · obtain ⟨_, found⟩ := path.live_start
            rw [dead] at found
            exact absurd found (by simp)
          · exact ⟨k, later, path⟩
        · rintro ⟨k, later, path⟩
          exact ⟨k, List.mem_cons_of_mem _ later, path⟩
      rw [ih]
      simp only [skipped]
  | case3 s i rest d found ih =>
      rw [ih]
      exact get?_erase_of_iff (reaches_work_iff found)
  | case4 s i rest op left right found ih =>
      have swapped : ∀ k, k ∈ right :: left :: rest ↔
          k ∈ (Node.operator op left right).operands ++ rest :=
        fun k => (List.Perm.swap left right rest).mem_iff
      rw [ih]
      simp only [swapped]
      exact get?_erase_of_iff (reaches_work_iff found)

theorem get?_prune_of_reaches {s : Store} {work : List Index} {i j : Index} (member : i ∈ work)
    (path : s.Reaches i j) : (s.prune work).get? j = none := by
  classical
  rw [get?_prune, if_pos ⟨i, member, path⟩]

theorem get?_prune_of_not_reaches {s : Store} {work : List Index} {j : Index}
    (apart : ∀ i ∈ work, ¬ s.Reaches i j) : (s.prune work).get? j = s.get? j := by
  classical
  rw [get?_prune, if_neg]
  rintro ⟨i, member, path⟩
  exact apart i member path

end Store

end PolishCalc

import Mathlib.Logic.Function.Basic
import PolishCalc.Proofs.Reading
import PolishCalc.Proofs.Traversal

/-!
# Interleaved traversals

Any number of traversals of one tree, called in any order, against the recursion over the tree.

* **recursion** — `Tree.symbols` reads the symbols off the nodes, operand by operand, without a
  stack;
* **one call** — it yields the first symbol that is due, if there is one, and leaves the others due
  (`Yields.call`). It ends on its own: the bound on the expansions may be as large as one likes
  (`Yields.ends`);
* **the rest** — what is due is what a traversal still yields (`Yields.toList`);
* **a run** — `runCalls` carries out a schedule of calls. Each traversal is answered as if the
  others were not there (`runCalls_yields`).
-/

namespace PolishCalc

/-! ## The recursion -/

/-- The symbol of an operator among those of its operands. -/
def Order.arrange (order : Order) (op : Operator) (left right : List Symbol) : List Symbol :=
  match order with
  | .preorder => .operator op :: (left ++ right)
  | .inorder => left ++ .operator op :: right
  | .postorder => left ++ right ++ [.operator op]

/-- The symbols of a tree in a given order, read off recursively. The empty tree has none. -/
def Tree.symbols (t : Tree) (order : Order) : Except ExprError (List Symbol) :=
  match t.root with
  | none => .ok []
  | some root => t.store.fold (fun d => [.digit d]) order.arrange root

theorem Expr.symbols_eq_fold (order : Order) (e : Expr) :
    e.symbols order = e.fold (fun d => [.digit d]) order.arrange := by
  induction e with
  | leaf d => rfl
  | node op left right ihLeft ihRight =>
      rw [fold, ← ihLeft, ← ihRight]
      cases order <;> rfl

theorem Tree.Represents.symbols_eq {t : Tree} {e : Expr} (represents : t.Represents e)
    (order : Order) : t.symbols order = .ok (e.symbols order) := by
  obtain ⟨_, _, rooted, holds, distinct, _⟩ := represents
  rw [Tree.symbols, rooted, Expr.symbols_eq_fold]
  exact holds.fold_eq distinct _ _

namespace Traversal

/-! ## One call -/

/-- One call: what it yields, if anything, and the traversal after it. A traversal that is at its
end stays there. -/
def call (t : Traversal) : Except ExprError (Option Symbol × Traversal) := do
  match ← t.next with
  | none => return (none, t)
  | some (symbol, rest) => return (some symbol, rest)

theorem store_of_next {t t' : Traversal} {symbol : Symbol}
    (taken : t.next = .ok (some (symbol, t'))) : t'.store = t.store := by
  obtain ⟨answer, _, rest⟩ := bind_eq_ok taken
  cases answer with
  | none => cases rest
  | some pair =>
      cases rest
      rfl

/-- A call yields the first symbol that is due and leaves the others due, in the same store. -/
theorem Yields.call {t : Traversal} {symbols : List Symbol} (yields : t.Yields symbols) :
    ∃ t', t.call = .ok (symbols.head?, t') ∧ t'.Yields symbols.tail ∧ t'.store = t.store := by
  cases symbols with
  | nil =>
      refine ⟨t, ?_, yields, rfl⟩
      rw [Traversal.call, yields.next_nil]
      rfl
  | cons first later =>
      obtain ⟨t', taken, yields'⟩ := yields.next_cons
      refine ⟨t', ?_, yields', store_of_next taken⟩
      rw [Traversal.call, taken]
      rfl

/-- A call that ends within a bound ends in the same way within a larger one. -/
theorem advance_mono {s : Store} {order : Order} {fuel fuel' : Nat} {pending : List (Index × Bool)}
    {answer : Option (Symbol × List (Index × Bool))}
    (ends : advance s order fuel pending = .ok answer) (larger : fuel ≤ fuel') :
    advance s order fuel' pending = .ok answer := by
  fun_induction advance s order fuel pending generalizing fuel' with
  | case1 => simpa only [advance] using ends
  | case2 => cases ends
  | case3 fuel i visited rest d found => simpa only [advance, found] using ends
  | case4 fuel i rest op left right found => simpa only [advance, found, if_true] using ends
  | case5 => cases ends
  | case6 i visited rest op left right found unvisited fuel ih =>
      obtain ⟨fuel', rfl⟩ : ∃ n, fuel' = n + 1 := ⟨fuel' - 1, by omega⟩
      simp only [advance, found, if_neg unvisited]
      exact ih ends (by omega)

/-- A call of a traversal that has its symbols due ends, however many expansions are allowed above
the number of slots. -/
theorem Yields.ends {t : Traversal} {symbols : List Symbol} (yields : t.Yields symbols) :
    ∃ answer, ∀ fuel, t.store.next ≤ fuel →
      advance t.store t.order fuel t.pending = .ok answer := by
  rcases yields.advance with ⟨_, taken⟩ | ⟨_, _, _, _, taken, _⟩
  · exact ⟨none, fun fuel larger => advance_mono taken larger⟩
  · exact ⟨_, fun fuel larger => advance_mono taken larger⟩

/-! ## The rest -/

theorem Yields.collect {t : Traversal} {symbols : List Symbol} (yields : t.Yields symbols)
    {fuel : Nat} (enough : symbols.length < fuel) : collect fuel t = .ok symbols := by
  induction symbols generalizing t fuel with
  | nil =>
      obtain ⟨fuel, rfl⟩ : ∃ n, fuel = n + 1 := ⟨fuel - 1, by omega⟩
      rw [Traversal.collect, yields.next_nil]
      rfl
  | cons first later ih =>
      obtain ⟨fuel, rfl⟩ : ∃ n, fuel = n + 1 := ⟨fuel - 1, by omega⟩
      obtain ⟨t', taken, yields'⟩ := yields.next_cons
      have enough' : later.length < fuel := by
        simp only [List.length_cons] at enough
        omega
      rw [Traversal.collect, taken]
      show (Traversal.collect fuel t' >>= fun rest => .ok (first :: rest)) = _
      rw [ih yields' enough']
      rfl

/-- What is due is what the traversal still yields. -/
theorem Yields.toList {t : Traversal} {symbols : List Symbol} (yields : t.Yields symbols)
    (within : symbols.length ≤ t.store.next) : t.toList = .ok symbols :=
  yields.collect (by omega)

/-! ## A run -/

section Run

variable {ι : Type} [DecidableEq ι]

/-- Carries out calls on several traversals, in the order of the schedule. The answers stand with
the names of the traversals that gave them. -/
def runCalls : (ι → Traversal) → List ι →
    Except ExprError (List (ι × Option Symbol) × (ι → Traversal))
  | running, [] => .ok ([], running)
  | running, i :: schedule => do
    let (answer, after) ← (running i).call
    let (answers, final) ← runCalls (Function.update running i after) schedule
    return ((i, answer) :: answers, final)

/-- The answers that one of the traversals gave. -/
def answersOf (i : ι) (answers : List (ι × Option Symbol)) : List (Option Symbol) :=
  (answers.filter fun answer => answer.1 = i).map Prod.snd

theorem answersOf_self (i : ι) (answer : Option Symbol) (answers : List (ι × Option Symbol)) :
    answersOf i ((i, answer) :: answers) = answer :: answersOf i answers := by
  simp [answersOf]

theorem answersOf_other {i j : ι} (other : j ≠ i) (answer : Option Symbol)
    (answers : List (ι × Option Symbol)) :
    answersOf i ((j, answer) :: answers) = answersOf i answers := by
  simp [answersOf, other]

/-- The answers to a number of calls: the symbols that are due, and nothing after the last one. -/
def answersFrom (symbols : List Symbol) (calls : Nat) : List (Option Symbol) :=
  (symbols.take calls).map some ++ List.replicate (calls - symbols.length) none

theorem answersFrom_succ (symbols : List Symbol) (calls : Nat) :
    answersFrom symbols (calls + 1) = symbols.head? :: answersFrom symbols.tail calls := by
  cases symbols with
  | nil => simp [answersFrom, List.replicate_succ]
  | cons first later => simp [answersFrom]

/-- In a run each traversal gives its own answers, and is left with its own symbols due. -/
theorem runCalls_yields {running : ι → Traversal} {due : ι → List Symbol}
    (yields : ∀ i, (running i).Yields (due i)) (schedule : List ι) :
    ∃ answers final, runCalls running schedule = .ok (answers, final) ∧
      ∀ i, answersOf i answers = answersFrom (due i) (schedule.count i) ∧
        (final i).Yields ((due i).drop (schedule.count i)) ∧
        (final i).store = (running i).store := by
  induction schedule generalizing running due with
  | nil => exact ⟨[], running, rfl, fun i => ⟨by simp [answersOf, answersFrom], yields i, rfl⟩⟩
  | cons j schedule ih =>
      obtain ⟨after, called, yieldsAfter, sameStore⟩ := (yields j).call
      -- the call changes what is due to one traversal only
      have yields' : ∀ i, (Function.update running j after i).Yields
          (Function.update due j (due j).tail i) := by
        intro i
        by_cases same : i = j
        · subst same
          simpa using yieldsAfter
        · simpa [same] using yields i
      obtain ⟨answers, final, ran, each⟩ := ih yields'
      refine ⟨(j, (due j).head?) :: answers, final, ?_, ?_⟩
      · rw [runCalls, called]
        show (runCalls (Function.update running j after) schedule >>= _) = _
        rw [ran]
        rfl
      · intro i
        obtain ⟨answered, left, kept⟩ := each i
        by_cases same : i = j
        · subst same
          rw [Function.update_self] at answered left kept
          refine ⟨?_, ?_, kept.trans sameStore⟩
          · rw [answersOf_self, answered, List.count_cons_self, answersFrom_succ]
          · rwa [List.count_cons_self, ← List.drop_tail]
        · rw [Function.update_of_ne same] at answered left kept
          rw [answersOf_other (Ne.symm same), List.count_cons_of_ne (Ne.symm same)]
          exact ⟨answered, left, kept⟩

end Run

/-! ## Trees that are handed out -/

/-- The traversals of a tree that was read, or of the empty tree, yield what the recursion gives,
one symbol for each node; there are no more nodes than slots. -/
theorem yields_of_made {t : Tree}
    (made : t = .empty ∨ ∃ strict text, Tree.read strict text = .ok t) :
    ∃ symbols : Order → List Symbol, ∀ order, t.symbols order = .ok (symbols order) ∧
      (symbols order).length = t.size ∧ t.size ≤ t.store.next ∧
      (t.traverse order).Yields (symbols order) := by
  rcases made with rfl | ⟨strict, text, success⟩
  · exact ⟨fun _ => [], fun _ => ⟨rfl, rfl, Nat.le_refl 0, .nil⟩⟩
  · obtain ⟨e, _, _, represents, _⟩ := Tree.represents_of_read success
    refine ⟨fun order => e.symbols order, fun order => ⟨represents.symbols_eq order, ?_, ?_, ?_⟩⟩
    · rw [Expr.length_symbols, represents.size_eq]
    · obtain ⟨_, _, _, holds, distinct, _⟩ := id represents
      rw [represents.size_eq]
      exact holds.size_le_next distinct
    · exact represents.yields order

/-- Traversals of one tree whose calls are interleaved. Each of them yields the symbols of the tree
in its order, one to a call, and nothing any more once all nodes are out; what it still yields is
the rest of them. No call fails, and every call that could follow ends. -/
theorem interleaved_calls {t : Tree}
    (made : t = .empty ∨ ∃ strict text, Tree.read strict text = .ok t)
    {ι : Type} [DecidableEq ι] (orders : ι → Order) (schedule : List ι) :
    ∃ symbols : Order → List Symbol,
      (∀ order, t.symbols order = .ok (symbols order) ∧ (symbols order).length = t.size ∧
        t.render order = .ok (String.ofList ((symbols order).map Symbol.toChar))) ∧
      ∃ answers final,
        runCalls (fun i => t.traverse (orders i)) schedule = .ok (answers, final) ∧
        ∀ i, answersOf i answers = ((symbols (orders i)).take (schedule.count i)).map some ++
              List.replicate (schedule.count i - t.size) none ∧
          (final i).toList = .ok ((symbols (orders i)).drop (schedule.count i)) ∧
          ∃ answer, ∀ fuel, t.store.next ≤ fuel →
            advance t.store (final i).order fuel (final i).pending = .ok answer := by
  obtain ⟨symbols, each⟩ := yields_of_made made
  refine ⟨symbols, ?_, ?_⟩
  · intro order
    obtain ⟨recursive, length, within, yields⟩ := each order
    refine ⟨recursive, length, ?_⟩
    have listed : (t.traverse order).toList = .ok (symbols order) :=
      yields.toList (Nat.le_trans (Nat.le_of_eq length) within)
    rw [Tree.render, listed]
    rfl
  · obtain ⟨answers, final, ran, after⟩ :=
      runCalls_yields (fun i => (each (orders i)).2.2.2) schedule
    refine ⟨answers, final, ran, ?_⟩
    intro i
    obtain ⟨_, length, within, _⟩ := each (orders i)
    obtain ⟨answered, yields, sameStore⟩ := after i
    have sameStore : (final i).store = t.store := sameStore
    refine ⟨?_, ?_, ?_⟩
    · rw [answered, answersFrom, length]
    · apply yields.toList
      rw [List.length_drop, length, sameStore]
      omega
    · rw [← sameStore]
      exact yields.ends

/-- Of two traversals of a difference, one is called past its end and the other twice in between. -/
theorem interleaved_calls_difference :
    let t : Tree :=
      { store := { slots := #[some (.leaf 2), some (.leaf 9), some (.operator .sub 1 0)] }
        root := some 2 }
    let orders : Bool → Order := fun late => if late then .postorder else .preorder
    Tree.read true "-92" = .ok t ∧
      ∃ answers final,
        runCalls (fun i => t.traverse (orders i)) [false, true, false, false, true, false] =
            .ok (answers, final) ∧
          answersOf false answers =
            [some (.operator .sub), some (.digit 9), some (.digit 2), none] ∧
          answersOf true answers = [some (.digit 9), some (.digit 2)] ∧
          (final false).toList = .ok [] ∧ (final true).toList = .ok [.operator .sub] := by
  intro t orders
  have success : Tree.read true "-92" = .ok t := rfl
  obtain ⟨symbols, written, answers, final, ran, each⟩ :=
    interleaved_calls (.inr ⟨true, "-92", success⟩) orders [false, true, false, false, true, false]
  have early : symbols .preorder = [.operator .sub, .digit 9, .digit 2] :=
    (Except.ok.inj (written .preorder).1).symm
  have late : symbols .postorder = [.digit 9, .digit 2, .operator .sub] :=
    (Except.ok.inj (written .postorder).1).symm
  obtain ⟨answeredEarly, leftEarly, _⟩ := each false
  obtain ⟨answeredLate, leftLate, _⟩ := each true
  simp only [orders, if_true, Bool.false_eq_true, if_false, early, late] at *
  exact ⟨success, answers, final, ran, answeredEarly, answeredLate, leftEarly, leftLate⟩

end Traversal

/-- A tree is rendered as the written forms of its expression. -/
theorem Tree.Represents.render_eq {t : Tree} {e : Expr} (represents : t.Represents e)
    (order : Order) : t.render order = .ok (String.ofList (e.written order)) := by
  have yields := represents.yields order
  obtain ⟨_, _, _, holds, distinct, _⟩ := represents
  have within : (e.symbols order).length ≤ t.store.next := by
    rw [Expr.length_symbols]
    exact holds.size_le_next distinct
  rw [render, yields.toList within]
  rfl

end PolishCalc

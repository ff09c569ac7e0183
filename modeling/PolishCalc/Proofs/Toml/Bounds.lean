import PolishCalc.Proofs.Toml.Scalar
import PolishCalc.Toml.Reader

/-!
# Bounds of documents

Every integer at the top of a document that was read fits into 64 bits (`fit_of_read?`).

* **values** — a value that is read in a document fits (`fits_of_value`), and so does the value of
  each statement (`fits_of_statements`);
* **tables** — a statement with a value that fits leaves a document fit (`Document.fit_of_step`).
  The step goes through `Entries.change`, which gives the keys on its way only tables, so that all
  depends on what is done at the end of the way (`Entries.fit_of_change`).
-/

namespace PolishCalc.Toml

/-! ## Values -/

/-- The value is not an integer that is too large. -/
def Node.Fits : Node → Prop
  | .scalar value => value.Fits
  | _ => True

theorem fits_of_bareValue {text rest : List Char} {scalar : Scalar}
    (read : bareValue text = some (scalar, rest)) : scalar.Fits := by
  have stands : ∃ word, Scalar.ofBare? word = some scalar := by
    unfold bareValue at read
    dsimp only at read
    split at read
    · split at read
      all_goals
        obtain ⟨found, stands, result⟩ := Option.bind_eq_some_iff.mp read
        obtain ⟨rfl, _⟩ := Prod.mk.inj (Option.some.inj result)
        exact ⟨_, stands⟩
    · obtain ⟨found, stands, result⟩ := Option.bind_eq_some_iff.mp read
      obtain ⟨rfl, _⟩ := Prod.mk.inj (Option.some.inj result)
      exact ⟨_, stands⟩
  obtain ⟨word, stands⟩ := stands
  exact Scalar.fits_of_ofBare? stands

theorem fits_of_stringValue {text rest : List Char} {node : Node}
    (read : value.stringValue text = some (node, rest)) : node.Fits := by
  obtain ⟨_, _, result⟩ := Option.bind_eq_some_iff.mp read
  obtain ⟨rfl, _⟩ := Prod.mk.inj (Option.some.inj result)
  trivial

theorem fits_of_atom {text rest : List Char} {node : Node}
    (read : value.atom text = some (node, rest)) : node.Fits := by
  unfold value.atom at read
  split at read
  · exact fits_of_stringValue read
  · exact fits_of_stringValue read
  · obtain ⟨⟨scalar, _⟩, bare, result⟩ := Option.bind_eq_some_iff.mp read
    obtain ⟨rfl, _⟩ := Prod.mk.inj (Option.some.inj result)
    exact fits_of_bareValue bare

theorem fits_of_inlineTable {item : Reader Node} {text rest : List Char} {node : Node}
    (read : inlineTable item text = some (node, rest)) : node.Fits := by
  unfold inlineTable at read
  split at read
  · obtain ⟨rfl, _⟩ := Prod.mk.inj (Option.some.inj read)
    trivial
  · obtain ⟨_, _, read⟩ := Option.bind_eq_some_iff.mp read
    obtain ⟨_, _, result⟩ := Option.bind_eq_some_iff.mp read
    obtain ⟨rfl, _⟩ := Prod.mk.inj (Option.some.inj result)
    trivial

/-- Every value that is read fits. -/
theorem fits_of_value {depth : Nat} {text rest : List Char} {node : Node}
    (read : value depth text = some (node, rest)) : node.Fits := by
  cases depth with
  | zero =>
      rw [value] at read
      exact fits_of_atom read
  | succ depth =>
      rw [value.eq_def] at read
      dsimp only at read
      split at read
      · obtain ⟨_, _, result⟩ := Option.bind_eq_some_iff.mp read
        obtain ⟨rfl, _⟩ := Prod.mk.inj (Option.some.inj result)
        trivial
      · exact fits_of_inlineTable read
      · exact fits_of_atom read

/-- The value that a statement gives to a key fits. -/
def Statement.Fits : Statement → Prop
  | .define _ node => node.Fits
  | _ => True

theorem fits_of_pair {item : Reader Node}
    (items : ∀ {text node rest}, item text = some (node, rest) → node.Fits)
    {text rest : List Char} {key : Key} {node : Node}
    (read : pair item text = some ((key, node), rest)) : node.Fits := by
  obtain ⟨⟨_, _⟩, _, read⟩ := Option.bind_eq_some_iff.mp read
  dsimp only at read
  split at read
  · obtain ⟨⟨_, _⟩, found, result⟩ := Option.bind_eq_some_iff.mp read
    obtain ⟨same, _⟩ := Prod.mk.inj (Option.some.inj result)
    obtain ⟨_, rfl⟩ := Prod.mk.inj same
    exact items found
  · cases read

theorem fits_of_statement {text rest : List Char} {first : Statement}
    (read : statement text = some (first, rest)) : first.Fits := by
  unfold statement at read
  split at read
  · obtain ⟨⟨_, _⟩, _, read⟩ := Option.bind_eq_some_iff.mp read
    dsimp only at read
    split at read
    · obtain ⟨rfl, _⟩ := Prod.mk.inj (Option.some.inj read)
      trivial
    · cases read
  · obtain ⟨⟨_, _⟩, _, read⟩ := Option.bind_eq_some_iff.mp read
    dsimp only at read
    split at read
    · obtain ⟨rfl, _⟩ := Prod.mk.inj (Option.some.inj read)
      trivial
    · cases read
  · obtain ⟨⟨⟨_, _⟩, _⟩, found, result⟩ := Option.bind_eq_some_iff.mp read
    obtain ⟨rfl, _⟩ := Prod.mk.inj (Option.some.inj result)
    exact fits_of_pair fits_of_value found

/-- Every statement of a document that was read fits. -/
theorem fits_of_statements {steps : Nat} {text : List Char} {read : List Statement}
    (scanned : statements steps text = some read) : ∀ statement ∈ read, statement.Fits := by
  induction steps generalizing text read with
  | zero => cases scanned
  | succ steps ih =>
      rw [statements] at scanned
      split at scanned
      · obtain rfl := Option.some.inj scanned
        intro statement member
        cases member
      · split at scanned
        · exact ih scanned
        · obtain ⟨⟨first, _⟩, found, scanned⟩ := Option.bind_eq_some_iff.mp scanned
          obtain ⟨_, _, scanned⟩ := Option.bind_eq_some_iff.mp scanned
          obtain ⟨later, others, result⟩ := Option.bind_eq_some_iff.mp scanned
          obtain rfl := Option.some.inj result
          exact List.forall_mem_cons.mpr ⟨fits_of_statement found, ih others⟩

/-! ## Tables -/

namespace Entries

/-- The integers at the top of a table fit. -/
def Fit (entries : Entries) : Prop :=
  ∀ entry ∈ entries, entry.2.Fits

theorem fit_assign {entries : Entries} (fit : entries.Fit) {key : String} {node : Node}
    (fits : node.Fits) : (entries.assign key node).Fit := by
  induction entries with
  | nil =>
      rw [assign]
      intro entry member
      rw [List.mem_singleton.mp member]
      exact fits
  | cons old entries ih =>
      obtain ⟨name, found⟩ := old
      obtain ⟨first, later⟩ := List.forall_mem_cons.mp fit
      rw [assign]
      split
      · exact List.forall_mem_cons.mpr ⟨fits, later⟩
      · exact List.forall_mem_cons.mpr ⟨first, ih later⟩

/-- Tables on the way do not matter: a change leaves a table fit if what is done at its end does. -/
theorem fit_of_change {dotted : Bool} {action : TableKind → Entries → Option Entries}
    {entries changed : Entries} (fit : entries.Fit)
    (action_fit : ∀ {kind entries changed}, Fit entries → action kind entries = some changed →
      changed.Fit)
    {kind : TableKind} {path : List String}
    (change_eq : change dotted action kind path entries = some changed) : changed.Fit := by
  cases path with
  | nil => exact action_fit fit change_eq
  | cons key path =>
      rw [change] at change_eq
      split at change_eq
      · obtain ⟨_, _, result⟩ := Option.bind_eq_some_iff.mp change_eq
        obtain rfl := Option.some.inj result
        exact fit_assign fit trivial
      · split at change_eq
        · cases change_eq
        · obtain ⟨_, _, result⟩ := Option.bind_eq_some_iff.mp change_eq
          obtain rfl := Option.some.inj result
          exact fit_assign fit trivial
      · obtain ⟨_, _, change_eq⟩ := Option.bind_eq_some_iff.mp change_eq
        obtain ⟨_, _, result⟩ := Option.bind_eq_some_iff.mp change_eq
        obtain rfl := Option.some.inj result
        exact fit_assign fit trivial
      · cases change_eq

theorem fit_of_define {path : List String} {key : String} {node : Node} {entries changed : Entries}
    (fit : entries.Fit) (fits : node.Fits) (defined : entries.define path key node = some changed) :
    changed.Fit := by
  refine fit_of_change fit ?_ defined
  intro kind entries changed fit added
  split at added
  · obtain rfl := Option.some.inj added
    exact List.forall_mem_append.mpr ⟨fit, List.forall_mem_singleton.mpr fits⟩
  · cases added

theorem fit_of_openTable {path : List String} {key : String} {entries changed : Entries}
    (fit : entries.Fit) (opened : entries.openTable path key = some changed) : changed.Fit := by
  refine fit_of_change fit ?_ opened
  intro kind entries changed fit opened
  split at opened
  · obtain rfl := Option.some.inj opened
    exact fit_assign fit trivial
  · obtain rfl := Option.some.inj opened
    exact fit_assign fit trivial
  · cases opened

theorem fit_of_openRow {path : List String} {key : String} {entries changed : Entries}
    (fit : entries.Fit) (opened : entries.openRow path key = some changed) : changed.Fit := by
  refine fit_of_change fit ?_ opened
  intro kind entries changed fit opened
  split at opened
  · obtain rfl := Option.some.inj opened
    exact fit_assign fit trivial
  · obtain rfl := Option.some.inj opened
    exact fit_assign fit trivial
  · cases opened

end Entries

/-! ## Documents -/

/-- A statement that fits leaves a document fit. -/
theorem Document.fit_of_step {document next : Document} {statement : Statement}
    (fit : document.entries.Fit) (fits : statement.Fits)
    (stepped : document.step statement = some next) : next.entries.Fit := by
  cases statement with
  | define key node =>
      obtain ⟨_, changed, result⟩ := Option.bind_eq_some_iff.mp stepped
      obtain rfl := Option.some.inj result
      exact Entries.fit_of_change fit (fun fit => Entries.fit_of_define fit fits) changed
  | openTable key =>
      obtain ⟨_, opened, result⟩ := Option.bind_eq_some_iff.mp stepped
      obtain rfl := Option.some.inj result
      exact Entries.fit_of_openTable fit opened
  | openRow key =>
      obtain ⟨_, opened, result⟩ := Option.bind_eq_some_iff.mp stepped
      obtain rfl := Option.some.inj result
      exact Entries.fit_of_openRow fit opened

theorem Document.fit_of_steps {document last : Document} {statements : List Statement}
    (fit : document.entries.Fit) (fits : ∀ statement ∈ statements, statement.Fits)
    (stepped : statements.foldlM step document = some last) : last.entries.Fit := by
  induction statements generalizing document with
  | nil =>
      obtain rfl := Option.some.inj stepped
      exact fit
  | cons first statements ih =>
      obtain ⟨fitsFirst, fitsLater⟩ := List.forall_mem_cons.mp fits
      rw [List.foldlM_cons] at stepped
      obtain ⟨next, firstStep, laterSteps⟩ := Option.bind_eq_some_iff.mp stepped
      exact ih (fit_of_step fit fitsFirst firstStep) fitsLater laterSteps

/-- Every integer at the top of a document that was read fits into 64 bits. -/
theorem fit_of_read? {text : String} {entries : Entries} (read : read? text = some entries) :
    entries.Fit := by
  obtain ⟨statements, scanned, built⟩ := Option.bind_eq_some_iff.mp read
  obtain ⟨document, stepped, result⟩ := Option.bind_eq_some_iff.mp built
  obtain rfl := Option.some.inj result
  have empty : Entries.Fit [] := by
    intro entry member
    cases member
  exact Document.fit_of_steps empty (fits_of_statements scanned) stepped

end PolishCalc.Toml

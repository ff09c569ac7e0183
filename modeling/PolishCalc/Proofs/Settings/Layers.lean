import PolishCalc.Proofs.Settings.Effective
import PolishCalc.Proofs.Settings.GlobalFile
import PolishCalc.Proofs.Settings.Variables

/-!
# Layers of settings

A chain of layers on top of settings: files and environments, in any number and any order.

* **one layer** — what a layer says about a field is read off its table or its variables, key by key
  (`Layer.value?`), and so is the cause for which it is refused (`Layer.refusal?`). Neither depends
  on the settings below it (`Layer.run_apply`, `Layer.run_apply_refused`);
* **entries** — what is written in a layer under a key is a scalar of a file or the text of a
  variable (`Layer.entryAt?`), and what each of them means is defined apart from the readers
  (`Layer.value?_strict_iff`, `Layer.value?_sample_iff`, `Layer.value?_precision_iff`);
* **a chain** — the first layer that is refused decides the error (`Layer.run_applyAll_refused`);
  otherwise the last layer that says anything about a field decides the field
  (`Layer.run_applyAll`, `Layer.resolve`);
* **loading** — the settings of a run are a chain of three layers on top of the defaults
  (`Settings.load_eq`), so that loading gives settings or an error of the configuration
  (`Settings.load_cases`); every command that needs settings gets them with the strict option added
  (`Invocation.run_action`).
-/

namespace PolishCalc

/-! ## Fields -/

/-- A field of the settings: its key, the same in every layer, and how a file and a variable write
its values. -/
structure Field (α : Type) where
  key : String
  ofScalar? : Toml.Scalar → Option α
  ofVariable : String → FoundValue → Except ConfigError α

namespace Field

variable {α : Type}

/-- The strict option. -/
def strict : Field Bool where
  key := "strict"
  ofScalar? := Overlay.boolean?
  ofVariable := Environment.boolean

/-- The sample expression. -/
def sample : Field String where
  key := "sample_expression"
  ofScalar? := Overlay.string?
  ofVariable := Environment.text

/-- The number of places. -/
def precision : Field Nat where
  key := "precision"
  ofScalar? := Overlay.natural?
  ofVariable := Environment.places

/-- What a table says about a field. -/
def inTable? (field : Field α) (entries : Toml.Entries) : Option α :=
  match entries.find? field.key with
  | some (.scalar scalar) => field.ofScalar? scalar
  | _ => none

/-- A table does not say anything about a field, or it has a value of the right type for it. -/
def Fits (field : Field α) (entries : Toml.Entries) : Prop :=
  (entries.find? field.key).isSome → (field.inTable? entries).isSome

instance (field : Field α) (entries : Toml.Entries) : Decidable (field.Fits entries) :=
  inferInstanceAs (Decidable (_ → _))

/-- What variables say about a field. -/
def inVariables? (field : Field α) (assignments : Environment) : Option α := do
  (field.ofVariable field.key (← assignments.find? field.key)).toOption

/-- The cause for which the variable of a field is refused, if it is. -/
def variableRefusal? (field : Field α) (assignments : Environment) : Option ConfigError :=
  match (assignments.find? field.key).map (field.ofVariable field.key) with
  | some (.error cause) => some cause
  | _ => none

theorem field?_of_fits {field : Field α} {entries : Toml.Entries} (fits : field.Fits entries) :
    Overlay.field? entries field.key field.ofScalar? = some (field.inTable? entries) := by
  rw [Fits, inTable?] at fits
  rw [Overlay.field?, inTable?]
  split at fits
  · next scalar found =>
    obtain ⟨value, read⟩ := Option.isSome_iff_exists.mp (fits (by rw [found]; rfl))
    simp only [found, read, Option.map_some]
  · next other =>
    cases found : entries.find? field.key with
    | none => rfl
    | some node => exact absurd (fits (by rw [found]; rfl)) (by simp)

theorem fits_of_field? {field : Field α} {entries : Toml.Entries} {value : Option α}
    (read : Overlay.field? entries field.key field.ofScalar? = some value) :
    field.Fits entries := by
  intro present
  obtain ⟨node, found⟩ := Option.isSome_iff_exists.mp present
  rw [Overlay.field?, found] at read
  rw [inTable?, found]
  cases node with
  | scalar scalar =>
      obtain ⟨value, scalarRead, _⟩ := Option.map_eq_some_iff.mp read
      exact Option.isSome_iff_exists.mpr ⟨value, scalarRead⟩
  | array items => cases read
  | table kind entries => cases read
  | tables rows => cases read

theorem field_of_accepted {field : Field α} {assignments : Environment}
    (accepted : field.variableRefusal? assignments = none) :
    assignments.field field.key field.ofVariable = .ok (field.inVariables? assignments) := by
  rw [variableRefusal?] at accepted
  rw [Environment.field, inVariables?]
  cases found : assignments.find? field.key with
  | none => rfl
  | some value =>
      rw [found, Option.map_some] at accepted
      cases read : field.ofVariable field.key value with
      | ok value => simp [read, Except.map, Except.toOption]
      | error cause => simp [read] at accepted

theorem field_of_refused {field : Field α} {assignments : Environment} {cause : ConfigError}
    (refused : field.variableRefusal? assignments = some cause) :
    assignments.field field.key field.ofVariable = .error cause := by
  rw [variableRefusal?] at refused
  rw [Environment.field]
  cases found : assignments.find? field.key with
  | none => simp [found] at refused
  | some value =>
      rw [found, Option.map_some] at refused
      cases read : field.ofVariable field.key value with
      | ok value => simp [read] at refused
      | error cause' =>
          simp only [read, Option.some.injEq] at refused
          simp [read, Except.map, refused]

end Field

/-! ## Layers -/

/-- One layer of settings. -/
inductive Layer where
  /-- A file that counts if it exists. -/
  | globalFile (path : Option String)
  /-- A file that must exist, if one is asked for. -/
  | explicitFile (path : Option String)
  | environment (assignments : Environment)

namespace Layer

/-- Puts a layer on top of settings. -/
def apply (diagnosis : Diagnosis) (base : Settings) : Layer → Script RunError Settings
  | globalFile path => base.withGlobalFile path diagnosis
  | explicitFile path => base.withExplicitFile path diagnosis
  | environment assignments =>
    Script.ofExcept ((base.withEnvironment assignments).mapError Settings.refuse)

/-- Puts layers on top of settings, one after the other. -/
def applyAll (diagnosis : Diagnosis) : List Layer → Settings → Script RunError Settings
  | [], base => .done base
  | layer :: later, base => do applyAll diagnosis later (← layer.apply diagnosis base)

/-- The table of a file, if it can be read and is well-formed. -/
def table? (files : FileTree) (path : String) : Option Toml.Entries := do
  Toml.read? (← (files.readText path).toOption)

/-- What a layer says about a field. -/
def value? {α : Type} (files : FileTree) (field : Field α) : Layer → Option α
  | globalFile path => do field.inTable? (← table? files (← path))
  | explicitFile path => do field.inTable? (← table? files (← path))
  | environment assignments => field.inVariables? assignments

/-- A text is a document, and no field has a value of the wrong type in it. -/
def WellFormed (text : String) : Prop :=
  ∃ entries ∈ Toml.read? text,
    Field.strict.Fits entries ∧ Field.sample.Fits entries ∧ Field.precision.Fits entries

instance (text : String) : Decidable (WellFormed text) :=
  Option.decidableExistsMem (Toml.read? text)

/-- The cause for which a file that exists is refused, if it is. -/
def fileRefusal? (diagnosis : Diagnosis) (files : FileTree) (path : String) :
    Option ConfigError :=
  match files.readText path with
  | .error fault => some (.unreadable path fault.message)
  | .ok text => if WellFormed text then none else some (.malformed path (diagnosis text))

/-- The cause for which a layer is refused, if it is. Of several variables that are refused, that of
the first field counts. -/
def refusal? (diagnosis : Diagnosis) (files : FileTree) : Layer → Option ConfigError
  | globalFile none => none
  | globalFile (some path) =>
    if files.hasPath path then fileRefusal? diagnosis files path else none
  | explicitFile none => none
  | explicitFile (some path) =>
    if files.hasPath path then fileRefusal? diagnosis files path else some (.fileMissing path)
  | environment assignments =>
    (Field.strict.variableRefusal? assignments).or
      ((Field.sample.variableRefusal? assignments).or
        (Field.precision.variableRefusal? assignments))

/-- All that a layer says. -/
def overlay (files : FileTree) (layer : Layer) : Overlay where
  strict := layer.value? files .strict
  sample := layer.value? files .sample
  precision := layer.value? files .precision

/-! ## One layer -/

variable {diagnosis : Diagnosis}

theorem ofEntries?_eq (entries : Toml.Entries) :
    Overlay.ofEntries? entries =
      (Overlay.field? entries Field.strict.key Field.strict.ofScalar?).bind fun strict =>
      (Overlay.field? entries Field.sample.key Field.sample.ofScalar?).bind fun sample =>
      (Overlay.field? entries Field.precision.key Field.precision.ofScalar?).bind fun precision =>
        some { strict, sample, precision } := rfl

theorem environmentOverlay_eq (assignments : Environment) :
    assignments.overlay =
      (assignments.field Field.strict.key Field.strict.ofVariable).bind fun strict =>
      (assignments.field Field.sample.key Field.sample.ofVariable).bind fun sample =>
      (assignments.field Field.precision.key Field.precision.ofVariable).bind fun precision =>
        .ok { strict, sample, precision } := rfl

theorem ofToml?_of_wellFormed {text : String} (wellFormed : WellFormed text) :
    ∃ entries, Toml.read? text = some entries ∧ Overlay.ofToml? text =
      some { strict := Field.strict.inTable? entries
             sample := Field.sample.inTable? entries
             precision := Field.precision.inTable? entries } := by
  obtain ⟨entries, document, strict, sample, precision⟩ := wellFormed
  refine ⟨entries, document, ?_⟩
  rw [Overlay.ofToml?, document]
  show Overlay.ofEntries? entries = _
  simp only [ofEntries?_eq, Field.field?_of_fits strict, Field.field?_of_fits sample,
    Field.field?_of_fits precision, Option.bind_some]

theorem wellFormed_of_ofToml? {text : String} {overlay : Overlay}
    (read : Overlay.ofToml? text = some overlay) : WellFormed text := by
  obtain ⟨entries, document, read⟩ := Option.bind_eq_some_iff.mp read
  obtain ⟨_, strict, read⟩ := Option.bind_eq_some_iff.mp read
  obtain ⟨_, sample, read⟩ := Option.bind_eq_some_iff.mp read
  obtain ⟨_, precision, _⟩ := Option.bind_eq_some_iff.mp read
  have strictFits : Field.strict.Fits entries := Field.fits_of_field? strict
  have sampleFits : Field.sample.Fits entries := Field.fits_of_field? sample
  have precisionFits : Field.precision.Fits entries := Field.fits_of_field? precision
  exact ⟨entries, document, strictFits, sampleFits, precisionFits⟩

theorem overlay_of_accepted {assignments : Environment} {files : FileTree}
    (accepted : (environment assignments).refusal? diagnosis files = none) :
    assignments.overlay = .ok ((environment assignments).overlay files) := by
  simp only [refusal?, Option.or_eq_none_iff] at accepted
  obtain ⟨strict, sample, precision⟩ := accepted
  simp only [environmentOverlay_eq, Field.field_of_accepted strict, Field.field_of_accepted sample,
    Field.field_of_accepted precision, Except.bind]
  rfl

theorem overlay_of_refused {assignments : Environment} {files : FileTree} {cause : ConfigError}
    (refused : (environment assignments).refusal? diagnosis files = some cause) :
    assignments.overlay = .error cause := by
  simp only [refusal?, Option.or_eq_some_iff] at refused
  rw [environmentOverlay_eq]
  rcases refused with strict | ⟨strict, sample | ⟨sample, precision⟩⟩
  · simp only [Field.field_of_refused strict, Except.bind]
  · simp only [Field.field_of_accepted strict, Field.field_of_refused sample, Except.bind]
  · simp only [Field.field_of_accepted strict, Field.field_of_accepted sample,
      Field.field_of_refused precision, Except.bind]

theorem readText_of_missing {files : FileTree} {path : String}
    (missing : files.hasPath path = false) : files.readText path = .error .notFound := by
  have absent : files.find? path = none := by simpa [FileTree.hasPath] using missing
  simp only [FileTree.readText, absent]

/-- What a file specifies is read without regard to the settings that it is put on. -/
theorem run_readOverlay {path : String} {machine : Machine}
    (accepted : fileRefusal? diagnosis machine.files path = none) :
    (Settings.readOverlay path diagnosis).run machine =
      (.done ((explicitFile (some path)).overlay machine.files), machine) := by
  rw [fileRefusal?] at accepted
  rw [Settings.readOverlay, Script.run]
  cases read : machine.files.readText path with
  | error fault => simp [read] at accepted
  | ok text =>
      have wellFormed : WellFormed text := by simpa [read] using accepted
      obtain ⟨entries, document, specified⟩ := ofToml?_of_wellFormed wellFormed
      have table : table? machine.files path = some entries := by
        simp [table?, read, Except.toOption, document]
      simp only [specified, Script.run, overlay, value?, table, Option.bind_eq_bind,
        Option.bind_some]

theorem run_readOverlay_refused {path : String} {machine : Machine} {cause : ConfigError}
    (refused : fileRefusal? diagnosis machine.files path = some cause) :
    (Settings.readOverlay path diagnosis).run machine =
      (.failed (Settings.refuse cause), machine) := by
  rw [fileRefusal?] at refused
  rw [Settings.readOverlay, Script.run]
  cases read : machine.files.readText path with
  | error fault =>
      obtain rfl : _ = cause := by simpa [read] using refused
      rfl
  | ok text =>
      obtain ⟨spoiled, rfl⟩ :
          ¬ WellFormed text ∧ ConfigError.malformed path (diagnosis text) = cause := by
        simpa [read] using refused
      cases specified : Overlay.ofToml? text with
      | none => simp only [specified, Script.run]
      | some overlay => exact absurd (wellFormed_of_ofToml? specified) spoiled

theorem merge_nothing (base : Settings) : base.merge {} = base := rfl

theorem overlay_of_missing {files : FileTree} {path : String}
    (missing : files.hasPath path = false) : (globalFile (some path)).overlay files = {} := by
  have table : table? files path = none := by
    rw [table?, readText_of_missing missing]
    rfl
  simp [overlay, value?, table]

/-- A file is put on top of settings. -/
theorem run_mergeFile {path : String} {machine : Machine}
    (accepted : fileRefusal? diagnosis machine.files path = none) (base : Settings) :
    ((Settings.readOverlay path diagnosis).bind fun overlay =>
        .done (base.merge overlay)).run machine =
      (.done (base.merge ((explicitFile (some path)).overlay machine.files)), machine) := by
  rw [Script.run_bind, run_readOverlay accepted]
  rfl

theorem run_mergeFile_refused {path : String} {machine : Machine} {cause : ConfigError}
    (refused : fileRefusal? diagnosis machine.files path = some cause) (base : Settings) :
    ((Settings.readOverlay path diagnosis).bind fun overlay =>
        .done (base.merge overlay)).run machine =
      (.failed (Settings.refuse cause), machine) := by
  rw [Script.run_bind, run_readOverlay_refused refused]
  rfl

/-- A layer that is not refused wins field by field over the settings below it. -/
theorem run_apply {layer : Layer} {machine : Machine}
    (accepted : layer.refusal? diagnosis machine.files = none) (base : Settings) :
    (layer.apply diagnosis base).run machine =
      (.done (base.merge (layer.overlay machine.files)), machine) := by
  match layer with
  | globalFile none => rfl
  | explicitFile none => rfl
  | globalFile (some path) =>
      rw [apply, Settings.withGlobalFile, Script.run]
      cases present : machine.files.hasPath path with
      | false => rw [overlay_of_missing present, merge_nothing, Script.run]
      | true =>
          rw [refusal?, if_pos present] at accepted
          exact run_mergeFile accepted base
  | explicitFile (some path) =>
      rw [apply, Settings.withExplicitFile, Script.run]
      cases present : machine.files.hasPath path with
      | false => simp [refusal?, present] at accepted
      | true =>
          rw [refusal?, if_pos present] at accepted
          exact run_mergeFile accepted base
  | environment assignments =>
      rw [apply, Settings.withEnvironment, overlay_of_accepted accepted]
      rfl

/-- A layer that is refused ends the run, whatever the settings below it are. -/
theorem run_apply_refused {layer : Layer} {machine : Machine} {cause : ConfigError}
    (refused : layer.refusal? diagnosis machine.files = some cause) (base : Settings) :
    (layer.apply diagnosis base).run machine = (.failed (Settings.refuse cause), machine) := by
  match layer with
  | globalFile none => cases refused
  | explicitFile none => cases refused
  | globalFile (some path) =>
      rw [apply, Settings.withGlobalFile, Script.run]
      cases present : machine.files.hasPath path with
      | false => simp [refusal?, present] at refused
      | true =>
          rw [refusal?, if_pos present] at refused
          exact run_mergeFile_refused refused base
  | explicitFile (some path) =>
      rw [apply, Settings.withExplicitFile, Script.run]
      cases present : machine.files.hasPath path with
      | false =>
          obtain rfl : _ = cause := by simpa [refusal?, present] using refused
          rfl
      | true =>
          rw [refusal?, if_pos present] at refused
          exact run_mergeFile_refused refused base
  | environment assignments =>
      rw [apply, Settings.withEnvironment, overlay_of_refused refused]
      rfl

/-! ## Entries -/

/-- What is written in a layer under a key: a scalar in the table of a file, or the text of a
variable. -/
inductive Entry where
  | scalar (scalar : Toml.Scalar)
  | text (text : String)

namespace Entry

/-- A boolean, or a text that says a truth value. -/
def MeansTruth : Entry → Bool → Prop
  | scalar written, b => written = .boolean b
  | text written, b => Environment.SaysTruth written b

/-- A string, or the text as it stands. -/
def MeansText : Entry → String → Prop
  | scalar written, value => written = .string value
  | text written, value => written = value

/-- An integer that is not negative, or a text that says one. -/
def MeansNumber : Entry → Nat → Prop
  | scalar written, n => written = .integer n
  | text written, n => Environment.SaysNumber written n

/-- The entry of a table under a key, if it is a scalar. -/
def inTable? (entries : Toml.Entries) (key : String) : Option Entry :=
  match entries.find? key with
  | some (.scalar written) => some (.scalar written)
  | _ => none

/-- The entry of variables under a key, if it is a text. -/
def inVariables? (assignments : Environment) (key : String) : Option Entry :=
  match assignments.find? key with
  | some (.text written) => some (.text written)
  | _ => none

end Entry

/-- The entry of a layer under a key. -/
def entryAt? (files : FileTree) (key : String) : Layer → Option Entry
  | globalFile path => do Entry.inTable? (← table? files (← path)) key
  | explicitFile path => do Entry.inTable? (← table? files (← path)) key
  | environment assignments => Entry.inVariables? assignments key

/-- A field is read as its entries mean it. -/
structure Reads {α : Type} (field : Field α) (Means : Entry → α → Prop) : Prop where
  scalar (written : Toml.Scalar) (a : α) :
    field.ofScalar? written = some a ↔ Means (.scalar written) a
  text (written : String) (a : α) :
    field.ofVariable field.key (.text written) = .ok a ↔ Means (.text written) a
  map (a : α) : field.ofVariable field.key .map ≠ .ok a
  sequence (a : α) : field.ofVariable field.key .sequence ≠ .ok a

namespace Reads

variable {α : Type} {field : Field α} {Means : Entry → α → Prop} (reads : Reads field Means)
include reads

theorem inTable?_iff (entries : Toml.Entries) (a : α) :
    field.inTable? entries = some a ↔
      ∃ entry ∈ Entry.inTable? entries field.key, Means entry a := by
  rw [Field.inTable?, Entry.inTable?]
  cases entries.find? field.key with
  | none => simp
  | some node =>
      cases node with
      | scalar written => simp [reads.scalar written a]
      | array items => simp
      | table kind entries => simp
      | tables rows => simp

theorem inVariables?_iff (assignments : Environment) (a : α) :
    field.inVariables? assignments = some a ↔
      ∃ entry ∈ Entry.inVariables? assignments field.key, Means entry a := by
  rw [Field.inVariables?, Entry.inVariables?]
  have result (found : FoundValue) : (field.ofVariable field.key found).toOption = some a ↔
      field.ofVariable field.key found = .ok a := by
    cases field.ofVariable field.key found <;> simp [Except.toOption]
  cases assignments.find? field.key with
  | none => simp
  | some found =>
      cases found with
      | text written => simp [result, reads.text written a]
      | map => simp [result, reads.map a]
      | sequence => simp [result, reads.sequence a]

/-- What a layer says about a field is what its entry means. -/
theorem value?_iff (files : FileTree) (layer : Layer) (a : α) :
    layer.value? files field = some a ↔
      ∃ entry ∈ layer.entryAt? files field.key, Means entry a := by
  have inFile (path : Option String) :
      (path.bind fun path => (table? files path).bind field.inTable?) = some a ↔
        ∃ entry ∈ path.bind fun path =>
          (table? files path).bind fun entries => Entry.inTable? entries field.key,
          Means entry a := by
    cases path with
    | none => simp
    | some path =>
        cases table : table? files path with
        | none => simp [table]
        | some entries => simpa [table] using reads.inTable?_iff entries a
  cases layer with
  | globalFile path => exact inFile path
  | explicitFile path => exact inFile path
  | environment assignments => exact reads.inVariables?_iff assignments a

end Reads

theorem reads_strict : Reads .strict Entry.MeansTruth where
  scalar written b := by cases written <;> simp [Field.strict, Overlay.boolean?, Entry.MeansTruth]
  text written b := Environment.boolean_eq_ok_iff
  map b := nofun
  sequence b := nofun

theorem reads_sample : Reads .sample Entry.MeansText where
  scalar written text := by
    cases written <;> simp [Field.sample, Overlay.string?, Entry.MeansText]
  text written text := @Environment.text_eq_ok_iff Field.sample.key written text
  map text := nofun
  sequence text := nofun

theorem reads_precision : Reads .precision Entry.MeansNumber where
  scalar written n := by
    cases written with
    | integer value =>
        simp only [Field.precision, Overlay.natural?, Entry.MeansNumber, Toml.Scalar.integer.injEq]
        split
        · rw [Option.some.injEq]
          omega
        · simp only [reduceCtorEq, false_iff]
          omega
    | _ => simp [Field.precision, Overlay.natural?, Entry.MeansNumber]
  text written n := Environment.places_eq_ok_iff
  map n := nofun
  sequence n := nofun

/-- Where the settings are addressed by their own variables only, those are the entries. -/
theorem entryAt?_of_direct {assignments : Environment} (direct : assignments.Direct) {key : String}
    (listed : key ∈ Environment.settingKeys) (files : FileTree) :
    (environment assignments).entryAt? files key = (assignments.setting? key).map .text := by
  rw [entryAt?, Entry.inVariables?, Environment.find?_eq_setting? direct listed]
  cases assignments.setting? key with
  | none => rfl
  | some text => rfl

/-! ## Chains -/

/-- What the last layer that says anything about a field says about it. -/
def lastValue? {α : Type} (files : FileTree) (field : Field α) (layers : List Layer) : Option α :=
  (layers.filterMap (value? files field)).getLast?

theorem lastValue?_cons {α : Type} (files : FileTree) (field : Field α) (layer : Layer)
    (later : List Layer) :
    lastValue? files field (layer :: later) =
      (lastValue? files field later).or (layer.value? files field) := by
  rw [lastValue?, List.filterMap_cons]
  cases layer.value? files field with
  | none => rw [Option.or_none, lastValue?]
  | some value => rw [Option.or_some, List.getLast?_cons, lastValue?]

/-- The settings in which each field has its last value, or the base's if there is none. -/
def resolve (files : FileTree) (layers : List Layer) (base : Settings) : Settings where
  strict := (lastValue? files .strict layers).getD base.strict
  sample := (lastValue? files .sample layers).getD base.sample
  precision := (lastValue? files .precision layers).or base.precision

theorem resolve_cons (files : FileTree) (layer : Layer) (later : List Layer) (base : Settings) :
    resolve files (layer :: later) base =
      resolve files later (base.merge (layer.overlay files)) := by
  simp only [resolve, lastValue?_cons, Settings.merge, overlay, Option.getD_or, Option.or_assoc]

/-- A chain without a refused layer. -/
theorem run_applyAll {layers : List Layer} {machine : Machine}
    (accepted : ∀ layer ∈ layers, layer.refusal? diagnosis machine.files = none) (base : Settings) :
    (applyAll diagnosis layers base).run machine =
      (.done (resolve machine.files layers base), machine) := by
  induction layers generalizing base with
  | nil => rfl
  | cons layer later ih =>
      obtain ⟨first, others⟩ := List.forall_mem_cons.mp accepted
      show (Script.bind _ _).run machine = _
      rw [Script.run_bind, run_apply first, Script.proceed, ih others, resolve_cons]

/-- A chain with a refused layer: the first one decides. -/
theorem run_applyAll_refused {before after : List Layer} {layer : Layer} {machine : Machine}
    {cause : ConfigError}
    (accepted : ∀ earlier ∈ before, earlier.refusal? diagnosis machine.files = none)
    (refused : layer.refusal? diagnosis machine.files = some cause) (base : Settings) :
    (applyAll diagnosis (before ++ layer :: after) base).run machine =
      (.failed (Settings.refuse cause), machine) := by
  induction before generalizing base with
  | nil =>
      show (Script.bind _ _).run machine = _
      rw [Script.run_bind, run_apply_refused refused, Script.proceed]
  | cons earlier before ih =>
      obtain ⟨first, others⟩ := List.forall_mem_cons.mp accepted
      show (Script.bind _ _).run machine = _
      rw [Script.run_bind, run_apply first]
      exact ih others _

/-- A chain only looks at the files, and ends with settings or with the cause of a refusal. -/
theorem run_applyAll_cases (layers : List Layer) (base : Settings) (machine : Machine) :
    (∃ result, (applyAll diagnosis layers base).run machine = (.done result, machine)) ∨
      ∃ cause, (applyAll diagnosis layers base).run machine =
        (.failed (Settings.refuse cause), machine) := by
  induction layers generalizing base with
  | nil => exact .inl ⟨base, rfl⟩
  | cons layer later ih =>
      have chain : applyAll diagnosis (layer :: later) base =
          (layer.apply diagnosis base).bind (applyAll diagnosis later) := rfl
      rw [chain, Script.run_bind]
      cases refusal : layer.refusal? diagnosis machine.files with
      | none =>
          rw [run_apply refusal]
          exact ih _
      | some cause =>
          rw [run_apply_refused refusal]
          exact .inr ⟨cause, rfl⟩

/-- The layers of a run. -/
def ofRun (surroundings : Surroundings) (explicit : Option String) : List Layer :=
  [globalFile surroundings.globalConfig?, explicitFile explicit,
    environment surroundings.environment]

end Layer

/-- Settings are loaded by putting the layers of the run on top of the defaults. -/
theorem Settings.load_eq (surroundings : Surroundings) (explicit : Option String) :
    load surroundings explicit =
      Layer.applyAll surroundings.diagnosis (Layer.ofRun surroundings explicit) default := by
  show _ = Script.bind _ fun first => Script.bind _ fun second => Script.bind _ .done
  simp only [Script.bind_done]
  rfl

/-- Loading ends with settings, or with an error of the configuration. -/
theorem Settings.load_cases (surroundings : Surroundings) (explicit : Option String)
    (machine : Machine) :
    (∃ loaded, (load surroundings explicit).run machine = (.done loaded, machine)) ∨
      ∃ cause, (load surroundings explicit).run machine = (.failed (refuse cause), machine) := by
  rw [load_eq]
  exact Layer.run_applyAll_cases _ _ machine

/-- Where there is no global file, an explicit file that is malformed is told with what is wrong with
its text. -/
theorem Settings.load_malformed {surroundings : Surroundings} {path text : String}
    {machine : Machine} (alone : surroundings.globalConfig? = none)
    (read : machine.files.readText path = .ok text) (malformed : ¬ Layer.WellFormed text) :
    (load surroundings (some path)).run machine =
      (.failed (refuse (.malformed path (surroundings.diagnosis text))), machine) := by
  have present : machine.files.hasPath path = true := by
    by_contra missing
    rw [Layer.readText_of_missing (Bool.eq_false_iff.mpr missing)] at read
    cases read
  have accepted : ∀ earlier ∈ [Layer.globalFile none],
      earlier.refusal? surroundings.diagnosis machine.files = none := by simp [Layer.refusal?]
  have refused : (Layer.explicitFile (some path)).refusal? surroundings.diagnosis machine.files =
      some (.malformed path (surroundings.diagnosis text)) := by
    simp only [Layer.refusal?, Layer.fileRefusal?, present, read, malformed, if_true, if_false]
  rw [load_eq, Layer.ofRun, alone]
  exact Layer.run_applyAll_refused accepted refused default

namespace Layer

/-- What is said about a field in a run: by the environment, else by the explicit file, else by the
global file. -/
def runValue? {α : Type} (files : FileTree) (surroundings : Surroundings)
    (explicit : Option String) (field : Field α) : Option α :=
  ((environment surroundings.environment).value? files field).or
    (((explicitFile explicit).value? files field).or
      ((globalFile surroundings.globalConfig?).value? files field))

theorem lastValue?_ofRun {α : Type} (files : FileTree) (surroundings : Surroundings)
    (explicit : Option String) (field : Field α) :
    lastValue? files field (ofRun surroundings explicit) =
      runValue? files surroundings explicit field := by
  simp only [ofRun, lastValue?_cons, runValue?, Option.or_assoc]
  rfl

theorem resolve_ofRun (files : FileTree) (surroundings : Surroundings)
    (explicit : Option String) :
    resolve files (ofRun surroundings explicit) .default =
      { strict := (runValue? files surroundings explicit .strict).getD false
        sample := (runValue? files surroundings explicit .sample).getD sampleExpression
        precision := runValue? files surroundings explicit .precision } := by
  simp only [resolve, lastValue?_ofRun, Settings.default, Option.or_none]

/-- Chains of layers. If no layer is refused, each field has the value of the last layer that says
anything about it, or the one of the base; otherwise the first layer that is refused decides the
error, whatever the base and the layers after it are. So a run takes each field from the
environment, else from the explicit file, else from the global file, else from the defaults; the
error is that of the global file, else that of the explicit file, which may be missing or malformed,
else that of the environment; and a command gets the settings with the strict option added. What a
layer says about a field is what its entry under the key of the field means. -/
theorem last_value_wins (machine : Machine) :
    (∀ diagnosis layers base,
        (∀ layer ∈ layers, layer.refusal? diagnosis machine.files = none) →
        ∃ result, (applyAll diagnosis layers base).run machine = (.done result, machine) ∧
          result.strict = (lastValue? machine.files .strict layers).getD base.strict ∧
          result.sample = (lastValue? machine.files .sample layers).getD base.sample ∧
          result.precision = (lastValue? machine.files .precision layers).or base.precision) ∧
      (∀ diagnosis before layer after cause,
        (∀ earlier ∈ before, earlier.refusal? diagnosis machine.files = none) →
        layer.refusal? diagnosis machine.files = some cause →
        ∀ base, (applyAll diagnosis (before ++ layer :: after) base).run machine =
          (.failed (Settings.refuse cause), machine)) ∧
      (∀ (surroundings : Surroundings) (explicit : Option String),
        let loading := (Settings.load surroundings explicit).run machine
        let value {α : Type} (field : Field α) :=
          runValue? machine.files surroundings explicit field
        let refusal? (layer : Layer) := layer.refusal? surroundings.diagnosis machine.files
        let shared := refusal? (globalFile surroundings.globalConfig?)
        let file := refusal? (explicitFile explicit)
        let assignments := refusal? (environment surroundings.environment)
        (∀ path, surroundings.globalConfig? = some path ↔ surroundings.GlobalFile path) ∧
        (∀ cause, shared = some cause → loading = (.failed (Settings.refuse cause), machine)) ∧
        (∀ path, shared = none → explicit = some path → machine.files.hasPath path = false →
          loading = (.failed (Settings.refuse (.fileMissing path)), machine)) ∧
        (∀ path cause, shared = none → explicit = some path → machine.files.hasPath path = true →
          fileRefusal? surroundings.diagnosis machine.files path = some cause →
          loading = (.failed (Settings.refuse cause), machine)) ∧
        (∀ cause, shared = none → file = none → assignments = some cause →
          loading = (.failed (Settings.refuse cause), machine)) ∧
        (shared = none → file = none → assignments = none →
          ∃ loaded, loading = (.done loaded, machine) ∧
            loaded.strict = (value .strict).getD false ∧
            loaded.sample = (value .sample).getD "+-+7*/935/82*/625" ∧
            loaded.precision = value .precision ∧
            ∀ (invocation : Invocation) action, invocation.config = explicit →
              Invocation.action? invocation.command = some action →
              (invocation.execute surroundings).run machine =
                (action { loaded with
                  strict := loaded.strict || invocation.strict }).run machine)) ∧
      (∀ layer : Layer,
        (∀ b, layer.value? machine.files .strict = some b ↔
          ∃ entry ∈ layer.entryAt? machine.files "strict", entry.MeansTruth b) ∧
        (∀ text, layer.value? machine.files .sample = some text ↔
          ∃ entry ∈ layer.entryAt? machine.files "sample_expression", entry.MeansText text) ∧
        (∀ n, layer.value? machine.files .precision = some n ↔
          ∃ entry ∈ layer.entryAt? machine.files "precision", entry.MeansNumber n)) ∧
      ∀ assignments : Environment, assignments.Direct → ∀ key ∈ Environment.settingKeys,
        (environment assignments).entryAt? machine.files key =
          (assignments.setting? key).map .text := by
  refine ⟨?_, ?_, ?_, ?_, ?_⟩
  · intro diagnosis layers base accepted
    exact ⟨_, run_applyAll accepted base, rfl, rfl, rfl⟩
  · intro diagnosis before layer after cause accepted refused base
    exact run_applyAll_refused accepted refused base
  · intro surroundings explicit loading value refusal? shared file assignments
    have loading_eq : loading =
        (applyAll surroundings.diagnosis (ofRun surroundings explicit) .default).run machine := by
      rw [← Settings.load_eq]
    -- the file is the second layer, whatever it is refused for
    have second : ∀ cause, shared = none → file = some cause →
        loading = (.failed (Settings.refuse cause), machine) := by
      intro cause first refused
      have accepted : ∀ earlier ∈ [globalFile surroundings.globalConfig?],
          refusal? earlier = none := by simpa using first
      rw [loading_eq]
      exact run_applyAll_refused accepted refused .default
    refine ⟨fun _ => Surroundings.globalConfig?_eq_some_iff, ?_, ?_, ?_, ?_, ?_⟩
    · intro cause refused
      have accepted : ∀ earlier ∈ ([] : List Layer), refusal? earlier = none := by simp
      rw [loading_eq]
      exact run_applyAll_refused accepted refused .default
    · rintro path first rfl missing
      refine second _ first ?_
      simp only [file, refusal?, Layer.refusal?, missing, Bool.false_eq_true, if_false]
    · rintro path cause first rfl present refused
      refine second cause first ?_
      simp only [file, refusal?, Layer.refusal?, present, if_true, refused]
    · intro cause first accepted refused
      have accepted : ∀ earlier ∈ [globalFile surroundings.globalConfig?, explicitFile explicit],
          refusal? earlier = none := by simpa using ⟨first, accepted⟩
      rw [loading_eq]
      exact run_applyAll_refused accepted refused .default
    · intro first second third
      have accepted : ∀ layer ∈ ofRun surroundings explicit, refusal? layer = none := by
        simpa [ofRun] using ⟨first, second, third⟩
      have success := run_applyAll accepted .default
      rw [← loading_eq, resolve_ofRun] at success
      refine ⟨_, success, rfl, rfl, rfl, ?_⟩
      rintro invocation action rfl needs
      exact Invocation.run_action needs success
  · intro layer
    exact ⟨reads_strict.value?_iff machine.files layer, reads_sample.value?_iff machine.files layer,
      reads_precision.value?_iff machine.files layer⟩
  · intro assignments direct key listed
    exact entryAt?_of_direct direct listed machine.files

/-- A variable wins over a file before it and does not touch the other fields, and a file that is
asked for after it says nothing. A negative number of places is the error, although the file after
it is missing too. -/
theorem last_value_wins_variable :
    let files : FileTree :=
      FileTree.put {} ["c"] (some (.file (Text.encode "strict = true\nprecision = 2")))
    let layers := [explicitFile (some "c"), environment [("EXPTREE_Precision", "ON")],
      explicitFile none]
    (∃ result,
      (applyAll .opening layers { sample := "+12" }).run { files } = (.done result, { files }) ∧
      result.strict = true ∧ result.sample = "+12" ∧ result.precision = some 1) ∧
    ∀ diagnosis base,
      (applyAll diagnosis [environment [("EXPTREE_PRECISION", "-7")], explicitFile (some "d")]
          base).run { files } =
        (.failed (.config "precision must not be negative: -7"), { files }) := by
  intro files layers
  obtain ⟨accepted, refused, _⟩ := last_value_wins { files }
  refine ⟨?_, ?_⟩
  · have each : ∀ layer ∈ layers, layer.refusal? .opening files = none := by
      simp only [layers, files]
      decide +kernel
    obtain ⟨result, ran, strict, sample, precision⟩ :=
      accepted .opening layers { sample := "+12" } each
    exact ⟨result, ran, strict, sample, precision⟩
  · intro diagnosis base
    have negative : (environment [("EXPTREE_PRECISION", "-7")]).refusal? diagnosis files =
        some (.negativePrecision (-7)) := rfl
    exact refused diagnosis [] _ _ _ (by simp) negative base

end Layer

end PolishCalc

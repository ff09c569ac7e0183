import PolishCalc.Proofs.Result
import PolishCalc.Proofs.Settings.Effective
import PolishCalc.Proofs.Settings.RoundTrip
import PolishCalc.Proofs.Toml.Bounds

/-!
# Loaded settings are shown

Settings that were loaded can always be written, and what is written for them loads as those
settings again.

* **layers** — whatever a file or the environment specifies can be written
  (`Overlay.writable_of_ofToml?`, `Environment.writable_of_overlay`);
* **loading** — a layer leaves settings that can be written as such (`Settings.Writable.merge`),
  so all layers together do, and loading changes nothing (`Settings.inquires_load`);
* **showing** — what is written for the settings of an invocation is a file of these settings
  (`Invocation.shown_loads_back`).
-/

namespace PolishCalc

open Toml Decimal

/-! ## Layers -/

namespace Overlay

/-- The number of places, if it is specified, fits into an integer of a file. -/
def Writable (overlay : Overlay) : Prop :=
  ∀ places, overlay.precision = some places → places < integerBound

theorem lt_of_natural? {scalar : Scalar} (fits : scalar.Fits) {places : Nat}
    (read : natural? scalar = some places) : places < integerBound := by
  cases scalar with
  | integer n =>
      obtain ⟨_, upper⟩ := fits
      rw [natural?] at read
      split at read
      · obtain rfl := Option.some.inj read
        omega
      · cases read
  | boolean => cases read
  | float => cases read
  | dateTime => cases read
  | string => cases read

theorem lt_of_field? {entries : Entries} (fit : entries.Fit) {key : String} {places : Nat}
    (read : field? entries key natural? = some (some places)) : places < integerBound := by
  rw [field?] at read
  split at read
  · cases read
  · next scalar found =>
    obtain ⟨before, after, parts, _⟩ := List.lookup_eq_some_iff.mp found
    have fits : Node.Fits (.scalar scalar) := fit (key, .scalar scalar) (by simp [parts])
    obtain ⟨_, natural, same⟩ := Option.map_eq_some_iff.mp read
    obtain rfl := Option.some.inj same
    exact lt_of_natural? fits natural
  · cases read

theorem writable_of_ofToml? {text : String} {overlay : Overlay}
    (read : ofToml? text = some overlay) : overlay.Writable := by
  obtain ⟨entries, document, read⟩ := Option.bind_eq_some_iff.mp read
  obtain ⟨strict, _, read⟩ := Option.bind_eq_some_iff.mp read
  obtain ⟨sample, _, read⟩ := Option.bind_eq_some_iff.mp read
  obtain ⟨precision, field, result⟩ := Option.bind_eq_some_iff.mp read
  obtain rfl := Option.some.inj result
  rintro places rfl
  exact lt_of_field? (fit_of_read? document) field

end Overlay

namespace Environment

/-- The words for booleans are one and zero, and any other integer is checked. -/
theorem lt_of_integer {key : String} {value : FoundValue} {n : Int}
    (read : integer key value = .ok n) : n < integerBound := by
  cases value with
  | map => cases read
  | sequence => cases read
  | text word =>
      dsimp only [integer] at read
      split at read
      · obtain rfl := Except.ok.inj read
        decide
      · split at read
        · obtain rfl := Except.ok.inj read
          decide
        · split at read
          · next number =>
            obtain rfl := Except.ok.inj read
            dsimp only [readInteger?] at number
            split at number
            · cases number
            · exact (bounded?_eq_some_iff.mp number).2.2
          · cases read

theorem lt_of_places {key : String} {value : FoundValue} {n : Nat}
    (read : places key value = .ok n) : n < integerBound := by
  obtain ⟨m, number, read⟩ := bind_eq_ok read
  have upper := lt_of_integer number
  split at read
  · cases read
  · obtain rfl := Except.ok.inj read
    omega

theorem writable_of_overlay {environment : Environment} {overlay : Overlay}
    (read : environment.overlay = .ok overlay) : overlay.Writable := by
  obtain ⟨strict, _, read⟩ := bind_eq_ok read
  obtain ⟨sample, _, read⟩ := bind_eq_ok read
  obtain ⟨precision, field, result⟩ := bind_eq_ok read
  obtain rfl := Except.ok.inj result
  rintro n rfl
  rw [Environment.field] at field
  split at field
  · cases field
  · obtain ⟨_, number, same⟩ := map_eq_ok field
    obtain rfl := Option.some.inj same
    exact lt_of_places number

end Environment

namespace Settings

/-! ## Loading -/

theorem Writable.merge {base : Settings} (writable : base.Writable) {overlay : Overlay}
    (layer : overlay.Writable) : (base.merge overlay).Writable := by
  intro places found
  rcases Option.or_eq_some_iff.mp found with specified | ⟨_, inherited⟩
  · exact layer places specified
  · exact writable places inherited

theorem inquires_readOverlay (path : String) (diagnosis : Diagnosis) :
    (readOverlay path diagnosis).Inquires Overlay.Writable := by
  intro answer
  cases answer with
  | error fault => trivial
  | ok text =>
      dsimp only
      split
      · next read => exact Overlay.writable_of_ofToml? read
      · trivial

/-- A file that was read is a layer on top of the settings. -/
theorem inquires_merge {base : Settings} (writable : base.Writable) (path : String)
    (diagnosis : Diagnosis) :
    ((readOverlay path diagnosis).bind fun overlay =>
      .done (base.merge overlay)).Inquires Writable :=
  (inquires_readOverlay path diagnosis).bind fun _ layer => writable.merge layer

theorem inquires_withGlobalFile {base : Settings} (writable : base.Writable)
    (path : Option String) (diagnosis : Diagnosis) :
    (base.withGlobalFile path diagnosis).Inquires Writable := by
  cases path with
  | none => exact writable
  | some path =>
      intro found
      cases found with
      | true => exact inquires_merge writable path diagnosis
      | false => exact writable

theorem inquires_withExplicitFile {base : Settings} (writable : base.Writable)
    (path : Option String) (diagnosis : Diagnosis) :
    (base.withExplicitFile path diagnosis).Inquires Writable := by
  cases path with
  | none => exact writable
  | some path =>
      intro found
      cases found with
      | true => exact inquires_merge writable path diagnosis
      | false => trivial

/-- Loading only asks about files, and settings that were loaded can be written. -/
theorem inquires_load (surroundings : Surroundings) (explicit : Option String) :
    (load surroundings explicit).Inquires Writable := by
  have start : default.Writable := by
    intro places found
    cases found
  refine (inquires_withGlobalFile start _ _).bind fun settings writable => ?_
  refine (inquires_withExplicitFile writable _ _).bind fun settings writable => ?_
  apply Script.Inquires.ofExcept
  intro loaded success
  obtain ⟨overlay, specified, result⟩ := bind_eq_ok (mapError_eq_ok success)
  obtain rfl := Except.ok.inj result
  exact writable.merge (Environment.writable_of_overlay specified)

end Settings

namespace Invocation

/-! ## Showing -/

/-- The text of the settings and a line feed are written, if there is room for them. -/
theorem run_configShow {settings : Settings} {text : String} (written : settings.toToml = .ok text)
    {machine : Machine} (unlimited : machine.output.room = none) :
    (Execution.configShow settings).run machine =
      (.done (), machine.afterWriting (text ++ "\n")) := by
  rw [Execution.configShow, written]
  exact Script.run_put unlimited (Console.info text) _

/-- Whenever the settings can be loaded, they are shown: the effective ones, made strict by the
option, can be written, and what the command prints is a file that loads as them. -/
theorem shown_loads_back {invocation : Invocation} {surroundings : Surroundings}
    {machine machine' : Machine} {loaded effective : Settings}
    (command : invocation.command = some .configShow) (unlimited : machine.output.room = none)
    (success : (Settings.load surroundings invocation.config).run machine =
      (.done loaded, machine'))
    (effective_eq : effective = { loaded with strict := loaded.strict || invocation.strict }) :
    (invocation.settings surroundings).run machine = (.done effective, machine) ∧
      (∀ places, effective.precision = some places → places < 2 ^ 63) ∧
      (invocation.strict = true → effective.strict = true) ∧
      ∃ text, effective.toToml = .ok text ∧
        (invocation.execute surroundings).run machine =
          (.done (), machine.afterWriting (text ++ "\n")) ∧
        ∀ (path : String) (other : Machine) (diagnosis : Diagnosis),
          other.files.find? path = some (.file (Text.encode (text ++ "\n"))) →
          (Settings.default.withExplicitFile (some path) diagnosis).run other =
            (.done effective, other) := by
  have asks := Settings.inquires_load surroundings invocation.config
  obtain ⟨unchanged, writable⟩ := asks.run machine
  rw [success] at unchanged writable
  obtain rfl : machine' = machine := unchanged
  have fits : effective.Writable := by
    subst effective_eq
    exact writable loaded rfl
  have settings_eq : (invocation.settings surroundings).run machine' =
      (.done effective, machine') := by
    rw [run_settings success, effective_eq]
    rfl
  refine ⟨settings_eq, fits, ?_, _, Settings.toToml_of_writable fits, ?_, ?_⟩
  · intro strict
    rw [effective_eq, strict, Bool.or_true]
  · have needs : action? invocation.command = some Execution.configShow := by
      rw [command]
      rfl
    rw [execute_action needs, Script.run_bind, settings_eq]
    exact run_configShow (Settings.toToml_of_writable fits) unlimited
  · -- the line feed after the text is an empty line
    intro path other diagnosis present
    have specified := Settings.ofToml?_lines fits 1
    rw [String.ofList_append] at specified
    rw [Settings.run_withExplicitFile present specified, Settings.merge_default]

/-- The option, a variable, the explicit file and the global file specify something each; a word for
a boolean in the environment hides the largest number of places that a file can hold. -/
theorem shown_loads_back_layers :
    let invocation : Invocation :=
      { config := some "c", strict := true, command := some .configShow }
    let surroundings : Surroundings :=
      { environment := [("XDG_CONFIG_HOME", "/x"), ("EXPTREE_PRECISION", "on")]
        accountHome := some "/" }
    let files : FileTree :=
      (((FileTree.put {} ["x"] (some .directory)).put ["x", "exptree"] (some .directory)).put
        ["x", "exptree", "exptree.toml"]
          (some (.file (Text.encode "precision = 9223372036854775807")))).put
        ["c"] (some (.file (Text.encode "strict = false\nsample_expression = '+1\"2'")))
    let effective : Settings := { strict := true, sample := "+1\"2", precision := some 1 }
    let shown := "strict = true\nsample_expression = '+1\"2'\nprecision = 1\n"
    (Settings.load surroundings invocation.config).run { files } =
        (.done { effective with strict := false }, { files }) ∧
      (invocation.execute surroundings).run { files } =
        (.done (), { files, output := { written := Text.encode (shown ++ "\n") } }) ∧
      ∀ (path : String) (other : Machine) (diagnosis : Diagnosis),
        other.files.find? path = some (.file (Text.encode (shown ++ "\n"))) →
        (Settings.default.withExplicitFile (some path) diagnosis).run other =
          (.done effective, other) := by
  intro invocation surroundings files effective shown
  have success : (Settings.load surroundings invocation.config).run { files } =
      (.done { effective with strict := false }, { files }) := by
    simp only [invocation, surroundings, files, effective]
    rfl
  have written : effective.toToml = .ok shown := by
    simp only [effective, shown]
    rfl
  have command : invocation.command = some .configShow := rfl
  obtain ⟨_, _, _, text, text_eq, printed, loads⟩ := shown_loads_back command rfl success rfl
  obtain rfl := Except.ok.inj (written.symm.trans text_eq)
  exact ⟨success, printed, loads⟩

end Invocation

end PolishCalc

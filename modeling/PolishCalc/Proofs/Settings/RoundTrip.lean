import Mathlib.Algebra.Group.Nat.Defs
import PolishCalc.Proofs.Toml.Document
import PolishCalc.Settings.Load

/-!
# Settings written and read back

A file with the text that settings are written as is a layer that specifies exactly those settings.

* **writing** — settings can be written if their number of places fits into 64 bits, and then the
  text is the lines of `Settings.lines` (`Settings.toToml_of_writable`);
* **reading** — the text specifies every field that the settings have, whatever the sample
  expression is, also with empty lines after it (`Settings.ofToml?_lines`);
* **loading** — a file is put on top of other settings as the layer that it specifies
  (`Settings.run_withExplicitFile`).
-/

namespace PolishCalc

open Toml Decimal

namespace Settings

/-! ## Writing -/

/-- The number of places, if there is one, fits into an integer of a file. -/
def Writable (settings : Settings) : Prop :=
  ∀ places, settings.precision = some places → places < integerBound

/-- The line of the strict option. -/
def strictLine (strict : Bool) : Line where
  name := "strict"
  written := (if strict then "true" else "false").toList
  node := .scalar (.boolean strict)
  name_ne := by decide
  name_plain := List.all_eq_true.mp rfl
  reads := by
    intro rest
    cases strict
    · exact lineValue_word (List.all_eq_true.mp rfl) rfl rest
    · exact lineValue_word (List.all_eq_true.mp rfl) rfl rest

/-- The line of the sample expression. -/
def sampleLine (sample : String) : Line where
  name := "sample_expression"
  written := (writeString sample).toList
  node := .scalar (.string sample)
  name_ne := by decide
  name_plain := List.all_eq_true.mp rfl
  reads := lineValue_writeString sample

/-- The line of the number of places. -/
def precisionLine (places : Nat) (fits : places < integerBound) : Line where
  name := "precision"
  written := Nat.toDigits 10 places
  node := .scalar (.integer places)
  name_ne := by decide
  name_plain := List.all_eq_true.mp rfl
  reads := by
    have bare : ∀ c ∈ Nat.toDigits 10 places, isBare c = true := by
      intro c member
      have digit : c.isDigit = true := Nat.isDigit_of_mem_toDigits (by decide) (by decide) member
      simp [isBare, Char.isAlphanum, digit]
    exact lineValue_word bare (Scalar.ofBare?_toDigits fits)

/-- The lines that settings are written as. -/
def lines (settings : Settings) (writable : settings.Writable) : List Line :=
  strictLine settings.strict :: sampleLine settings.sample ::
    match found : settings.precision with
    | none => []
    | some places => [precisionLine places (writable places found)]

theorem toToml_of_writable {settings : Settings} (writable : settings.Writable) :
    settings.toToml = .ok (String.ofList ((settings.lines writable).flatMap Line.text)) := by
  obtain ⟨strict, sample, precision⟩ := settings
  cases precision with
  | none =>
      simp only [toToml]
      refine congrArg Except.ok (String.toList_inj.mp ?_)
      simp [lines, Line.text, strictLine, sampleLine]
  | some places =>
      have fits := writable places rfl
      simp only [toToml, if_pos fits]
      refine congrArg Except.ok (String.toList_inj.mp ?_)
      simp [lines, Line.text, strictLine, sampleLine, precisionLine]

theorem toToml_of_not_writable {settings : Settings} (refused : ¬ settings.Writable) :
    settings.toToml = .error .unwritablePrecision := by
  obtain ⟨strict, sample, precision⟩ := settings
  cases precision with
  | none => exact absurd (fun _ found => nomatch found) refused
  | some places =>
      have large : ¬ places < integerBound := by
        intro fits
        apply refused
        intro other found
        obtain rfl := Option.some.inj found
        exact fits
      simp only [toToml, if_neg large]

theorem not_writable_iff {settings : Settings} :
    ¬ settings.Writable ↔ ∃ places, settings.precision = some places ∧ 2 ^ 63 ≤ places := by
  have bound : integerBound = 2 ^ 63 := rfl
  simp only [Writable, bound, not_forall, Nat.not_lt, exists_prop]

/-- Writing fails exactly for a number of places that is too large. -/
theorem toToml_eq_error_iff {settings : Settings} {error : ConfigError} :
    settings.toToml = .error error ↔ error = .unwritablePrecision ∧
      ∃ places, settings.precision = some places ∧ 2 ^ 63 ≤ places := by
  rw [← not_writable_iff]
  by_cases writable : settings.Writable
  · simp [toToml_of_writable writable, writable]
  · simp [toToml_of_not_writable writable, writable, eq_comm]

theorem lines_distinct {settings : Settings} (writable : settings.Writable) :
    ((settings.lines writable).map Line.name).Nodup := by
  obtain ⟨strict, sample, precision⟩ := settings
  cases precision with
  | none =>
      show ["strict", "sample_expression"].Nodup
      decide
  | some places =>
      show ["strict", "sample_expression", "precision"].Nodup
      decide

/-- What a written file specifies: every field that the settings have. -/
def overlay (settings : Settings) : Overlay where
  strict := some settings.strict
  sample := some settings.sample
  precision := settings.precision

theorem ofEntries?_lines {settings : Settings} (writable : settings.Writable) :
    Overlay.ofEntries? ((settings.lines writable).map Line.entry) = some settings.overlay := by
  obtain ⟨strict, sample, precision⟩ := settings
  cases precision with
  | none => rfl
  | some places =>
      have natural : Overlay.natural? (.integer places) = some places := by
        simp [Overlay.natural?]
      have found : Overlay.field? ((lines _ writable).map Line.entry) "precision" Overlay.natural? =
          (Overlay.natural? (.integer places)).map some := rfl
      rw [Overlay.ofEntries?, found, natural]
      rfl

/-- A written file, also with empty lines after it, specifies the settings that it was written
for. -/
theorem ofToml?_lines {settings : Settings} (writable : settings.Writable) (blank : Nat) :
    Overlay.ofToml? (String.ofList ((settings.lines writable).flatMap Line.text ++
        List.replicate blank '\n')) = some settings.overlay := by
  rw [Overlay.ofToml?, read?_lines (lines_distinct writable) blank]
  exact ofEntries?_lines writable

/-- On top of the defaults, settings that specify every field are themselves. -/
theorem merge_default (settings : Settings) :
    Settings.default.merge settings.overlay = settings := by
  obtain ⟨strict, sample, precision⟩ := settings
  cases precision <;> rfl

/-! ## Loading -/

/-- A file that can be read and is well-formed is put on top of other settings; nothing else
happens. -/
theorem run_withExplicitFile {path text : String} {machine : Machine} {overlay : Overlay}
    (present : machine.files.find? path = some (.file (Text.encode text)))
    (wellFormed : Overlay.ofToml? text = some overlay) (base : Settings) (diagnosis : Diagnosis) :
    (base.withExplicitFile (some path) diagnosis).run machine =
      (.done (base.merge overlay), machine) := by
  have found : machine.files.hasPath path = true := by
    rw [FileTree.hasPath, present]
    rfl
  have read : machine.files.readText path = .ok text := by
    simp only [FileTree.readText, present, Text.decode?_encode]
  rw [withExplicitFile, Script.run, found]
  show ((readOverlay path diagnosis).bind fun overlay =>
    Script.done (base.merge overlay)).run machine = _
  rw [Script.run_bind, readOverlay, Script.run, read]
  simp only [wellFormed]
  rfl

/-- Settings are written and read back. Writing fails exactly for a number of places that is too
large for an integer of a file; otherwise a file with the text that was written gives the strict
option and the sample expression as they were, and the number of places if there was one. -/
theorem written_loads_back (settings : Settings) :
    (∀ error, settings.toToml = .error error ↔ error = .unwritablePrecision ∧
        ∃ places, settings.precision = some places ∧ 2 ^ 63 ≤ places) ∧
      ((¬ ∃ places, settings.precision = some places ∧ 2 ^ 63 ≤ places) →
        ∃ text, settings.toToml = .ok text ∧
          ∀ (path : String) (machine : Machine) (diagnosis : Diagnosis),
            machine.files.find? path = some (.file (Text.encode text)) →
            (∀ base : Settings, (base.withExplicitFile (some path) diagnosis).run machine =
              (.done { strict := settings.strict, sample := settings.sample,
                       precision := settings.precision.or base.precision }, machine)) ∧
            (Settings.default.withExplicitFile (some path) diagnosis).run machine =
              (.done settings, machine)) := by
  refine ⟨fun error => toToml_eq_error_iff, ?_⟩
  intro small
  have writable : settings.Writable := by
    by_contra refused
    exact small (not_writable_iff.mp refused)
  refine ⟨_, toToml_of_writable writable, ?_⟩
  intro path machine diagnosis present
  have specified := ofToml?_lines writable 0
  rw [List.replicate_zero, List.append_nil] at specified
  have loads := run_withExplicitFile present specified
  refine ⟨fun base => loads base diagnosis, ?_⟩
  rw [loads, merge_default]

/-- A sample with both kinds of quotation marks three times in a row, a control, a line feed and a
backslash. -/
theorem written_loads_back_quotes :
    let settings : Settings :=
      { strict := true, sample := "\"\"\"'''\r\n\\", precision := some 3 }
    let text := "strict = true\n" ++
      "sample_expression = \"\"\"\n\"\"\\\"'''\\r\n\\\\\"\"\"\n" ++
      "precision = 3\n"
    let machine : Machine := { files := FileTree.put {} ["c"] (some (.file (Text.encode text))) }
    settings.toToml = .ok text ∧ machine.files.find? "c" = some (.file (Text.encode text)) ∧
      ∀ diagnosis, (Settings.default.withExplicitFile (some "c") diagnosis).run machine =
        (.done settings, machine) := by
  intro settings text machine
  have written : settings.toToml = .ok text := by
    simp only [settings, text]
    rfl
  have present : machine.files.find? "c" = some (.file (Text.encode text)) := rfl
  have small : ¬ ∃ places, settings.precision = some places ∧ 2 ^ 63 ≤ places := by
    rintro ⟨places, found, large⟩
    obtain rfl := Option.some.inj found
    exact absurd large (by decide)
  obtain ⟨text', text_eq, loads⟩ := (written_loads_back settings).2 small
  obtain rfl := Except.ok.inj (written.symm.trans text_eq)
  exact ⟨written, present, fun diagnosis => (loads "c" machine diagnosis present).2⟩

end Settings

end PolishCalc

import PolishCalc.Host.Script

/-!
# Laws of scripts

* **errors** — a change of the errors of a script changes how its run ends and nothing else
  (`run_mapError`);
* **output** — an output without a limit takes every text (`run_write`);
* **inquiries** — `script.Inquires returns`: the script asks about files and does nothing else, and
  whatever the answers are, its results have the property `returns`. It leaves the machine as it is
  (`Inquires.run`), and so does a script that is put together from such scripts (`Inquires.bind`);
* **files** — `script.KeepsFiles`: no step of the script changes a file, so no run of it does
  (`KeepsFiles.run`), and so it is with scripts that are put together from such scripts
  (`KeepsFiles.bind`).
-/

namespace PolishCalc

/-- The ending of a run with the errors changed. -/
def Outcome.mapError {ε ε' α : Type} (f : ε → ε') : Outcome ε α → Outcome ε' α
  | done value => done value
  | failed error => failed (f error)
  | aborted => aborted

theorem Outcome.mapError_untaken {ε ε' α : Type} (f : ε → ε') (onFailure : Option ε) :
    (untaken onFailure : Outcome ε α).mapError f = untaken (onFailure.map f) := by
  cases onFailure with
  | none => rfl
  | some error => rfl

/-- The machine after a text was written to an output without a limit. -/
def Machine.afterWriting (machine : Machine) (text : String) : Machine :=
  { machine with
    output := { machine.output with written := machine.output.written ++ Text.encode text } }

theorem Machine.afterWriting_empty (machine : Machine) : machine.afterWriting "" = machine := by
  have nothing : Text.encode "" = [] := rfl
  rw [afterWriting, nothing, List.append_nil]

namespace Script

variable {ε ε' α β : Type}

/-- Going on with nothing changes nothing. -/
theorem bind_done (script : Script ε α) : script.bind .done = script := by
  induction script with
  | done value => rfl
  | fail error => rfl
  | abort => rfl
  | write text onFailure rest ih => rw [bind, ih]
  | readLine onFailure rest ih => simp only [bind, ih]
  | hasPath path rest ih => simp only [bind, ih]
  | readFile path rest ih => simp only [bind, ih]
  | makeDirectories path rest ih => simp only [bind, ih]
  | writeFile path text rest ih => simp only [bind, ih]

theorem bind_assoc {γ : Type} (script : Script ε α) (next : α → Script ε β)
    (later : β → Script ε γ) :
    (script.bind next).bind later = script.bind fun value => (next value).bind later := by
  induction script with
  | done value => rfl
  | fail error => rfl
  | abort => rfl
  | write text onFailure rest ih => simp only [bind, ih]
  | readLine onFailure rest ih => simp only [bind, ih]
  | hasPath path rest ih => simp only [bind, ih]
  | readFile path rest ih => simp only [bind, ih]
  | makeDirectories path rest ih => simp only [bind, ih]
  | writeFile path text rest ih => simp only [bind, ih]

/-- The steps of a `do` block are bound one after the other. -/
theorem bind_eq (script : Script ε α) (next : α → Script ε β) :
    script >>= next = script.bind next := rfl

theorem run_mapError (f : ε → ε') (script : Script ε α) (machine : Machine) :
    (script.mapError f).run machine =
      ((script.run machine).1.mapError f, (script.run machine).2) := by
  induction script generalizing machine with
  | done value => rfl
  | fail error => rfl
  | abort => rfl
  | write text onFailure rest ih =>
      simp only [mapError, run]
      split
      · exact ih _
      · rw [Outcome.mapError_untaken]
  | readLine onFailure rest ih =>
      simp only [mapError, run]
      split
      · exact ih _ _
      · rfl
  | hasPath path rest ih => exact ih _ _
  | readFile path rest ih => exact ih _ _
  | makeDirectories path rest ih => exact ih _ _
  | writeFile path text rest ih =>
      simp only [mapError, run]
      split
      · exact ih _ _
      · exact ih _ _

theorem run_write {machine : Machine} (unlimited : machine.output.room = none) (text : String)
    (onFailure : Option ε) (rest : Script ε α) :
    (write text onFailure rest).run machine = rest.run (machine.afterWriting text) := by
  have taken : machine.output.write (Text.encode text) =
      ((machine.afterWriting text).output, true) := by
    simp only [Sink.write, Machine.afterWriting, unlimited]
  rw [run, taken]
  rfl

theorem run_put {machine : Machine} (unlimited : machine.output.room = none) (text : String)
    (onFailure : ε) :
    (put text onFailure).run machine = (.done (), machine.afterWriting text) :=
  run_write unlimited text (some onFailure) (done ())

/-! ## Inquiries -/

/-- The script asks about files and does nothing else, and its results have the property. -/
def Inquires (returns : α → Prop) : Script ε α → Prop
  | done value => returns value
  | fail _ => True
  | abort => True
  | hasPath _ rest => ∀ answer, (rest answer).Inquires returns
  | readFile _ rest => ∀ answer, (rest answer).Inquires returns
  | write _ _ _ => False
  | readLine _ _ => False
  | makeDirectories _ _ => False
  | writeFile _ _ _ => False

namespace Inquires

variable {returns : α → Prop} {returns' : β → Prop}

theorem bind {script : Script ε α} (first : script.Inquires returns) {next : α → Script ε β}
    (later : ∀ value, returns value → (next value).Inquires returns') :
    (script.bind next).Inquires returns' := by
  induction script with
  | done value => exact later value first
  | fail error => trivial
  | abort => trivial
  | hasPath path rest ih => exact fun answer => ih answer (first answer)
  | readFile path rest ih => exact fun answer => ih answer (first answer)
  | write text onFailure rest => exact first.elim
  | readLine onFailure rest => exact first.elim
  | makeDirectories path rest => exact first.elim
  | writeFile path text rest => exact first.elim

theorem run {script : Script ε α} (asks : script.Inquires returns) (machine : Machine) :
    (script.run machine).2 = machine ∧
      ∀ value, (script.run machine).1 = .done value → returns value := by
  induction script with
  | done value =>
      refine ⟨rfl, ?_⟩
      rintro _ ⟨⟩
      exact asks
  | fail error => exact ⟨rfl, fun _ ended => nomatch ended⟩
  | abort => exact ⟨rfl, fun _ ended => nomatch ended⟩
  | hasPath path rest ih => exact ih _ (asks _)
  | readFile path rest ih => exact ih _ (asks _)
  | write text onFailure rest => exact asks.elim
  | readLine onFailure rest => exact asks.elim
  | makeDirectories path rest => exact asks.elim
  | writeFile path text rest => exact asks.elim

theorem ofExcept {result : Except ε α} (success : ∀ value, result = .ok value → returns value) :
    (ofExcept result).Inquires returns := by
  cases result with
  | error error => trivial
  | ok value => exact success value rfl

end Inquires

/-! ## Files -/

/-- The script has no step that changes files, whatever it reads and is answered. -/
inductive KeepsFiles : Script ε α → Prop
  | done (value : α) : KeepsFiles (.done value)
  | fail (error : ε) : KeepsFiles (.fail error)
  | abort : KeepsFiles .abort
  | write (text : String) (onFailure : Option ε) {rest : Script ε α} :
      rest.KeepsFiles → KeepsFiles (.write text onFailure rest)
  | readLine (onFailure : ε) {rest : String → Script ε α} :
      (∀ line, (rest line).KeepsFiles) → KeepsFiles (.readLine onFailure rest)
  | hasPath (path : String) {rest : Bool → Script ε α} :
      (∀ answer, (rest answer).KeepsFiles) → KeepsFiles (.hasPath path rest)
  | readFile (path : String) {rest : Except ReadFault String → Script ε α} :
      (∀ answer, (rest answer).KeepsFiles) → KeepsFiles (.readFile path rest)

theorem Inquires.keepsFiles {returns : α → Prop} {script : Script ε α}
    (asks : script.Inquires returns) : script.KeepsFiles := by
  induction script with
  | done value => exact .done value
  | fail error => exact .fail error
  | abort => exact .abort
  | hasPath path rest ih => exact .hasPath path fun answer => ih answer (asks answer)
  | readFile path rest ih => exact .readFile path fun answer => ih answer (asks answer)
  | write text onFailure rest => exact asks.elim
  | readLine onFailure rest => exact asks.elim
  | makeDirectories path rest => exact asks.elim
  | writeFile path text rest => exact asks.elim

namespace KeepsFiles

theorem run {script : Script ε α} (keeps : script.KeepsFiles) (machine : Machine) :
    (script.run machine).2.files = machine.files := by
  induction keeps generalizing machine with
  | done value => rfl
  | fail error => rfl
  | abort => rfl
  | write text onFailure _ ih =>
      simp only [Script.run]
      split
      · exact ih _
      · rfl
  | readLine onFailure _ ih =>
      simp only [Script.run]
      split
      · exact ih _ _
      · rfl
  | hasPath path _ ih => exact ih _ machine
  | readFile path _ ih => exact ih _ machine

theorem bind {script : Script ε α} (first : script.KeepsFiles) {next : α → Script ε β}
    (later : ∀ value, (next value).KeepsFiles) : (script.bind next).KeepsFiles := by
  induction first with
  | done value => exact later value
  | fail error => exact .fail error
  | abort => exact .abort
  | write text onFailure _ ih => exact .write text onFailure ih
  | readLine onFailure _ ih => exact .readLine onFailure ih
  | hasPath path _ ih => exact .hasPath path ih
  | readFile path _ ih => exact .readFile path ih

theorem mapError {script : Script ε α} (keeps : script.KeepsFiles) (f : ε → ε') :
    (script.mapError f).KeepsFiles := by
  induction keeps with
  | done value => exact .done value
  | fail error => exact .fail (f error)
  | abort => exact .abort
  | write text onFailure _ ih => exact .write text (onFailure.map f) ih
  | readLine onFailure _ ih => exact .readLine (f onFailure) ih
  | hasPath path _ ih => exact .hasPath path ih
  | readFile path _ ih => exact .readFile path ih

theorem ofExcept (result : Except ε α) : (ofExcept result).KeepsFiles := by
  cases result with
  | ok value => exact .done value
  | error error => exact .fail error

theorem put (text : String) (onFailure : ε) : (Script.put text onFailure).KeepsFiles :=
  .write text (some onFailure) (.done ())

end KeepsFiles

end Script

end PolishCalc

import PolishCalc.Proofs.Creation
import PolishCalc.Proofs.Settings.Effective
import PolishCalc.Proofs.Settings.RoundTrip
import PolishCalc.Proofs.Settings.Shown

/-!
# Sessions

Command lines that are run one after the other on the same files.

* **commands** — no command but the one that makes a configuration file has a step that changes
  files (`Invocation.keepsFiles_execute`);
* **one call** — `Call.Lawful`: what a call does to the files that it is run on, whatever they are
  (`Call.lawful`);
* **sessions** — what holds of every call holds from call to call, so a session has the same laws
  (`Call.session_lawful`). Without force a file is written over in one case: the path of the new
  file leads through a missing directory and up again, so that nothing is found at it before its
  directories are made.
-/

namespace PolishCalc

open Text (Bytes encode)

/-! ## Commands -/

namespace Execution

open Script (KeepsFiles)

theorem keepsFiles_print {ε : Type} (report : Report) (precision : Option Nat) (onFailure : ε) :
    (report.print precision onFailure).KeepsFiles := by
  unfold Report.print
  refine (KeepsFiles.put _ _).bind fun _ => (KeepsFiles.put _ _).bind fun _ => ?_
  refine (KeepsFiles.put _ _).bind fun _ => (KeepsFiles.put _ _).bind fun _ => ?_
  refine (KeepsFiles.put _ _).bind fun _ => (KeepsFiles.put _ _).bind fun _ => ?_
  split
  · exact .put _ _
  · exact .abort

theorem keepsFiles_eval (settings : Settings) (expression : Option String) :
    (eval settings expression).KeepsFiles :=
  (KeepsFiles.ofExcept _).bind fun report => keepsFiles_print report _ _

theorem keepsFiles_render (settings : Settings) (expression : String) (order : Order) :
    (render settings expression order).KeepsFiles :=
  (KeepsFiles.ofExcept _).bind fun _ => (KeepsFiles.ofExcept _).bind fun _ => .put _ _

theorem keepsFiles_tree (settings : Settings) (expression : String) :
    (tree settings expression).KeepsFiles :=
  (KeepsFiles.ofExcept _).bind fun _ => (KeepsFiles.ofExcept _).bind fun _ => .put _ _

theorem keepsFiles_configShow (settings : Settings) : (configShow settings).KeepsFiles :=
  (KeepsFiles.ofExcept _).bind fun _ => .put _ _

theorem keepsFiles_runAndReport (settings : Settings) (expression : String) :
    (runAndReport settings expression).KeepsFiles := by
  rw [runAndReport]
  split
  · exact (keepsFiles_print _ _ _).bind fun _ => .done _
  · exact (KeepsFiles.put _ _).bind fun _ => (KeepsFiles.put _ _).bind fun _ => .fail _

theorem keepsFiles_hear : Dialogue.hear.KeepsFiles :=
  .readLine _ fun _ => .done _

theorem keepsFiles_choose (settings : Settings) : (Dialogue.choose settings).KeepsFiles := by
  refine (KeepsFiles.put _ _).bind fun _ => (KeepsFiles.put _ _).bind fun _ => ?_
  refine keepsFiles_hear.bind fun answer => ?_
  split
  · exact (KeepsFiles.put _ _).bind fun _ => keepsFiles_hear
  · exact (KeepsFiles.put _ _).bind fun _ => .done _

theorem keepsFiles_interactive (settings : Settings) : (interactive settings).KeepsFiles := by
  have asks : (runInteractive settings).KeepsFiles :=
    (keepsFiles_choose settings).bind fun expression =>
      (KeepsFiles.put _ _).bind fun _ => keepsFiles_runAndReport settings expression
  exact (asks.mapError _).bind fun _ => .done _

theorem keepsFiles_configPath (surroundings : Surroundings) (explicit : Option String) :
    (configPath surroundings explicit).KeepsFiles := by
  unfold configPath
  cases surroundings.globalConfig? with
  | none => cases explicit with
    | none => exact (KeepsFiles.put _ _).bind fun _ => .done ()
    | some path => exact (KeepsFiles.put _ _).bind fun _ => .put _ _
  | some global => cases explicit with
    | none => exact .hasPath global fun _ => (KeepsFiles.put _ _).bind fun _ => .done ()
    | some path => exact .hasPath global fun _ => (KeepsFiles.put _ _).bind fun _ => .put _ _

end Execution

namespace Invocation

theorem keepsFiles_action {command : Option Command}
    {action : Settings → Script CommandError Unit} (needs : action? command = some action)
    (settings : Settings) : (action settings).KeepsFiles := by
  cases command with
  | none =>
      obtain rfl := Option.some.inj needs
      exact Execution.keepsFiles_interactive settings
  | some command =>
      cases command with
      | configPath => exact nomatch needs
      | configInit force => exact nomatch needs
      | completion shell => exact nomatch needs
      | eval expression =>
          obtain rfl := Option.some.inj needs
          exact Execution.keepsFiles_eval settings expression
      | render expression order =>
          obtain rfl := Option.some.inj needs
          exact Execution.keepsFiles_render settings expression order
      | tree expression =>
          obtain rfl := Option.some.inj needs
          exact Execution.keepsFiles_tree settings expression
      | interactive =>
          obtain rfl := Option.some.inj needs
          exact Execution.keepsFiles_interactive settings
      | configShow =>
          obtain rfl := Option.some.inj needs
          exact Execution.keepsFiles_configShow settings

theorem keepsFiles_settings (invocation : Invocation) (surroundings : Surroundings) :
    (invocation.settings surroundings).KeepsFiles :=
  ((Settings.inquires_load surroundings invocation.config).keepsFiles.mapError _).bind
    fun _ => .done _

/-- No command but the one that makes a configuration file has a step that changes files. -/
theorem keepsFiles_execute {invocation : Invocation}
    (other : ∀ force, invocation.command ≠ some (.configInit force))
    (surroundings : Surroundings) : (invocation.execute surroundings).KeepsFiles := by
  cases needs : action? invocation.command with
  | some action =>
      rw [execute_action needs]
      exact (invocation.keepsFiles_settings surroundings).bind (keepsFiles_action needs)
  | none =>
      obtain ⟨debug, config, strict, command⟩ := invocation
      cases command with
      | none => exact nomatch needs
      | some command =>
          cases command with
          | configPath => exact Execution.keepsFiles_configPath surroundings config
          | configInit force => exact absurd rfl (other force)
          | completion shell => exact .write _ _ (.done ())
          | _ => exact nomatch needs

end Invocation

/-! ## One call -/

/-- A command line, with what it is run on besides the files. -/
structure Call where
  invocation : Invocation := {}
  surroundings : Surroundings := {}
  input : Bytes := []
  output : Sink := {}

namespace Call

variable {call : Call} {files : FileTree}

/-- The machine that a call is run on. -/
def start (call : Call) (files : FileTree) : Machine :=
  { files, input := call.input, output := call.output }

/-- Runs a call on files. -/
def run (call : Call) (files : FileTree) : Outcome CommandError Unit × Machine :=
  (call.invocation.execute call.surroundings).run (call.start files)

/-- Whether a call is to make a configuration file, and whether it is forced then. -/
def creates? (call : Call) : Option Bool :=
  match call.invocation.command with
  | some (.configInit force) => some force
  | _ => none

/-- The path of the file that is to be made. -/
def target (call : Call) : Except CommandError String :=
  Execution.newConfig call.surroundings call.invocation.config

/-- The path of the file that is to be made leads to the location, although nothing was found there
when the command asked. -/
def Overlooks (call : Call) (files : FileTree) (location : Location) : Prop :=
  Execution.Overlooks call.surroundings call.invocation.config files location

/-- What a call does to files. -/
structure Lawful (call : Call) (files : FileTree) : Prop where
  /-- Only a configuration file is ever made. -/
  keeps : call.creates? = none → (call.run files).2.files = files
  /-- Without force, a path that is taken is refused, and nothing is changed or written. -/
  refuses (path : String) : call.creates? = some false → call.target = .ok path →
    files.hasPath path = true →
    ∃ error : CommandError, call.run files = (.failed error, call.start files) ∧
      error = .invalidArguments (path ++ " already exists (use --force to overwrite)") ∧
      error.exitCode.toNat = 64
  /-- Without force, a file loses its bytes exactly if it was overlooked. -/
  spares (location : Location) (content : Bytes) : call.creates? = some false →
    files.get? location = some (.file content) →
    ((call.run files).2.files.get? location = some (.file content) ↔
      (call.Overlooks files location → content = encode Settings.template))
  /-- A file is overlooked only by a path that goes up. -/
  overlooked (location : Location) (content : Bytes) :
    files.get? location = some (.file content) → call.Overlooks files location →
    ∃ path, call.target = .ok path ∧ ['.', '.'] ∈ Path.split path.toList
  /-- Forced or not, a new configuration file is stored, and loading it gives the defaults. -/
  stores : call.creates? ≠ none → (call.run files).1 = .done () →
    ∃ path location, call.target = .ok path ∧
      files.Stored (call.run files).2.files path location (encode Settings.template) ∧
      ∀ (base : Settings) (diagnosis : Diagnosis),
        (base.withExplicitFile (some path) diagnosis).run (call.run files).2 =
          (.done { base with strict := Settings.default.strict, sample := Settings.default.sample },
            (call.run files).2)

theorem run_of_creates {force : Bool} (creates : call.creates? = some force) :
    call.run files = (Execution.configInit call.surroundings call.invocation.config force).run
      (call.start files) := by
  obtain ⟨⟨debug, config, strict, command⟩, surroundings, input, output⟩ := call
  cases command with
  | none => exact nomatch creates
  | some command =>
      cases command with
      | configInit force' =>
          obtain rfl : force' = force := Option.some.inj creates
          rfl
      | _ => exact nomatch creates

theorem creation {force : Bool} (creates : call.creates? = some force) (files : FileTree) :
    Execution.Creation call.surroundings call.invocation.config force (call.start files)
      (call.run files) := by
  rw [run_of_creates creates]
  exact Execution.creation_run _ _ _ _

theorem files_run (other : call.creates? = none) (files : FileTree) :
    (call.run files).2.files = files := by
  refine (Invocation.keepsFiles_execute ?_ call.surroundings).run (call.start files)
  intro force command
  rw [creates?, command] at other
  exact nomatch other

theorem run_of_taken {path : String} (creates : call.creates? = some false)
    (found : call.target = .ok path) (present : files.hasPath path = true) :
    call.run files = (.failed (.invalidArguments
      (path ++ " already exists (use --force to overwrite)")), call.start files) := by
  rw [run_of_creates creates, Execution.configInit_eq found, Script.run]
  show (Script.run (if files.hasPath path && !false then _ else _) _) = _
  rw [present]
  rfl

theorem wellFormed_run (wellFormed : files.WellFormed) (call : Call) :
    (call.run files).2.files.WellFormed := by
  cases creates : call.creates? with
  | none =>
      rw [files_run creates]
      exact wellFormed
  | some force =>
      rcases (creation creates files).files_cases wellFormed with failure | ⟨_, _, success⟩
      · exact failure.shape
      · exact success.shape

/-- A file that is there stays, and it keeps its bytes or has those of a new configuration file. -/
theorem file_run (wellFormed : files.WellFormed) (call : Call) {location : Location}
    {content : Bytes} (present : files.get? location = some (.file content)) :
    (call.run files).2.files.get? location = some (.file content) ∨
      (call.run files).2.files.get? location = some (.file (encode Settings.template)) := by
  cases creates : call.creates? with
  | none =>
      rw [files_run creates]
      exact .inl present
  | some force =>
      rcases (creation creates files).files_cases wellFormed with failure | ⟨_, target, success⟩
      · exact .inl (failure.grows.keeps present)
      · by_cases same : location = target
        · rw [same]
          exact .inr success.stored.holds
        · exact .inl ((success.stored.others same content).mpr present)

/-- A new configuration file specifies the defaults of the strict option and the sample. -/
theorem ofToml?_template : Overlay.ofToml? Settings.template =
    some { strict := some Settings.default.strict, sample := some Settings.default.sample } := by
  decide +kernel

theorem lawful (wellFormed : files.WellFormed) (call : Call) : call.Lawful files where
  keeps := fun other => files_run other files
  refuses := by
    intro path creates found present
    exact ⟨_, run_of_taken creates found present, rfl, rfl⟩
  spares := by
    intro location content creates present
    exact (creation creates files).keeps_iff wellFormed present
  overlooked := by
    rintro location content present ⟨path, found, hides⟩
    exact ⟨path, found, hides.goesUp wellFormed present⟩
  stores := by
    intro creates done
    obtain ⟨force, creates⟩ := Option.ne_none_iff_exists'.mp creates
    rcases (creation creates files).files_cases wellFormed with failure | ⟨path, location, success⟩
    · exact absurd done failure.failed
    · refine ⟨path, location, success.found, success.stored, ?_⟩
      intro base diagnosis
      have present : (call.run files).2.files.find? path =
          some (.file (encode Settings.template)) := by
        rw [FileTree.find?, success.stored.leads, Option.bind_some, success.stored.holds]
      exact Settings.run_withExplicitFile present ofToml?_template base diagnosis

/-! ## Sessions -/

/-- The files after calls that are run one after the other. -/
def session (calls : List Call) (files : FileTree) : FileTree :=
  calls.foldl (fun files call => (call.run files).2.files) files

/-- A call without force, whose path does not go up if it makes a configuration file. -/
def Careful (call : Call) : Prop :=
  call.creates? ≠ some true ∧ (call.creates? = some false →
    ∀ path, call.target = .ok path → ['.', '.'] ∉ Path.split path.toList)

theorem file_run_of_careful (wellFormed : files.WellFormed) (careful : call.Careful)
    {location : Location} {content : Bytes}
    (present : files.get? location = some (.file content)) :
    (call.run files).2.files.get? location = some (.file content) := by
  have lawful := call.lawful wellFormed
  cases creates : call.creates? with
  | none =>
      rw [lawful.keeps creates]
      exact present
  | some force =>
      cases force with
      | true => exact absurd creates careful.1
      | false =>
          refine (lawful.spares location content creates present).mpr fun overlooked => ?_
          obtain ⟨path, found, up⟩ := lawful.overlooked location content present overlooked
          exact absurd up (careful.2 creates path found)

/-- What every call preserves, a session preserves. -/
theorem session_preserves (property : FileTree → Prop) {calls : List Call}
    (step : ∀ call ∈ calls, ∀ {files : FileTree}, files.WellFormed → property files →
      property (call.run files).2.files)
    (wellFormed : files.WellFormed) (begins : property files) :
    (session calls files).WellFormed ∧ property (session calls files) := by
  refine List.foldlRecOn calls _ (motive := fun files => files.WellFormed ∧ property files)
    ⟨wellFormed, begins⟩ ?_
  rintro files ⟨wellFormed, reached⟩ call member
  exact ⟨wellFormed_run wellFormed call, step call member wellFormed reached⟩

/-- What sessions do to files. Without a call that makes a configuration file they do nothing, and
with careful calls no file loses its bytes; at worst a file gets those of a new configuration file.
Every call that comes after a session is lawful again. -/
theorem session_lawful (wellFormed : files.WellFormed) (calls : List Call) :
    ((∀ call ∈ calls, call.creates? = none) → session calls files = files) ∧
      ((∀ call ∈ calls, call.Careful) → ∀ location content,
        files.get? location = some (.file content) →
        (session calls files).get? location = some (.file content)) ∧
      (∀ location content, files.get? location = some (.file content) →
        (session calls files).get? location = some (.file content) ∨
          (session calls files).get? location = some (.file (encode Settings.template))) ∧
      ∀ call : Call, call.Lawful (session calls files) := by
  refine ⟨?_, ?_, ?_, ?_⟩
  · intro others
    refine (session_preserves (· = files) ?_ wellFormed rfl).2
    rintro call member _ _ rfl
    exact files_run (others call member) _
  · intro careful location content present
    refine (session_preserves (fun reached => reached.get? location = some (.file content))
      ?_ wellFormed present).2
    intro call member reached wellFormed present
    exact file_run_of_careful wellFormed (careful call member) present
  · intro location content present
    refine (session_preserves (fun reached => reached.get? location = some (.file content) ∨
      reached.get? location = some (.file (encode Settings.template)))
      ?_ wellFormed (.inl present)).2
    rintro call _ reached wellFormed (kept | replaced)
    · exact file_run wellFormed call kept
    · exact .inr (or_self_iff.mp (file_run wellFormed call replaced))
  · exact lawful (session_preserves (fun _ => True) (fun _ _ _ _ _ => trivial) wellFormed trivial).1

/-- The settings are shown, and then a file is to be made where one is: it is refused, also after
that, and the file is as before. -/
theorem session_lawful_refused :
    let files : FileTree := FileTree.put {} ["b"] (some (.file (encode "strict = true\n")))
    let ask : Call := { invocation := { config := some "b", command := some .configShow } }
    let create : Call :=
      { invocation := { config := some "./b", command := some (.configInit false) } }
    let reached := session [ask, create] files
    reached.get? ["b"] = some (.file (encode "strict = true\n")) ∧
      create.run reached = (.failed (.invalidArguments
        "./b already exists (use --force to overwrite)"), create.start reached) := by
  intro files ask create reached
  have wellFormed : files.WellFormed :=
    FileTree.wellFormed_empty.put rfl (by decide) (.file (encode "strict = true\n"))
  have careful : ∀ call ∈ [ask, create], call.Careful := by
    intro call member
    obtain rfl | rfl : call = ask ∨ call = create := by simpa using member
    · exact ⟨nofun, nofun⟩
    · refine ⟨nofun, ?_⟩
      rintro _ path found
      obtain rfl := Except.ok.inj found
      decide
  obtain ⟨_, spared, _, lawful⟩ := session_lawful wellFormed [ask, create]
  have kept := spared careful ["b"] _ rfl
  have present : reached.hasPath "./b" = true := by decide +kernel
  obtain ⟨error, refused, rfl, _⟩ := (lawful create).refuses "./b" rfl rfl present
  exact ⟨kept, refused⟩

/-- A path that goes through a missing directory and up again leads to a file that is there, which
is written over without force. -/
theorem overlooked_is_replaced :
    let files : FileTree := FileTree.put {} ["b"] (some (.file (encode "strict = true\n")))
    let call : Call :=
      { invocation := { config := some "gone/../b", command := some (.configInit false) } }
    files.WellFormed ∧ files.get? ["b"] = some (.file (encode "strict = true\n")) ∧
      (call.run files).1 = .done () ∧
      (call.run files).2.files.get? ["b"] = some (.file (encode Settings.template)) ∧
      encode Settings.template ≠ encode "strict = true\n" := by
  intro files call
  refine ⟨?_, rfl, ?_, ?_, ?_⟩
  · exact FileTree.wellFormed_empty.put rfl (by decide) _
  · decide +kernel
  · decide +kernel
  · decide +kernel

end Call

end PolishCalc

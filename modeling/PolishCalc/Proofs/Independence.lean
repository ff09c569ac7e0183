import PolishCalc.Proofs.Alike
import PolishCalc.Proofs.Creation
import PolishCalc.Proofs.Settings.Effective
import PolishCalc.Proofs.Settings.Layers

/-!
# Commands and a broken configuration

What commands do in worlds that differ in their configuration, and in a world whose configuration
cannot be loaded.

* **surroundings** — `Surroundings.Alike`: the environments differ in variables that are settings,
  and in nothing else. The global configuration file has the same path then
  (`Surroundings.Alike.globalConfig?`);
* **without settings** — completions, `config path` and `config init` are the same script in
  surroundings that are alike, and no step of it reads a file (`Invocation.execute_alike`,
  `Invocation.blind_execute`);
* **with settings** — every other command loads the settings before it does anything
  (`Invocation.run_of_refused`).

`Invocation.independent_of_configuration` puts the two parts together.
-/

namespace PolishCalc

open Text (encode)

/-! ## Surroundings -/

namespace Surroundings

/-- The environments differ in variables that are settings, and in nothing else. -/
structure Alike (first second : Surroundings) : Prop where
  others {name : String} : Environment.keyPath? name = none →
    first.environment.get? name = second.environment.get? name
  accountHome : first.accountHome = second.accountHome
  color : first.color = second.color
  completion : first.completion = second.completion

/-- Whether the output has colour is not a setting. -/
theorem wantsColor_alike {environment environment' : Environment}
    (others : ∀ {name}, Environment.keyPath? name = none →
      environment.get? name = environment'.get? name) (isTerminal : Bool) :
    wantsColor environment isTerminal = wantsColor environment' isTerminal := by
  have force : Environment.keyPath? "CLICOLOR_FORCE" = none := by decide +kernel
  have never : Environment.keyPath? "NO_COLOR" = none := by decide +kernel
  have maybe : Environment.keyPath? "CLICOLOR" = none := by decide +kernel
  unfold wantsColor
  simp only [others force, others never, others maybe]

/-- What a run is told from outside, in two environments. -/
theorem alike_of_others {environment environment' : Environment}
    (others : ∀ {name}, Environment.keyPath? name = none →
      environment.get? name = environment'.get? name)
    (accountHome : Option String) (isTerminal : Bool) (completion : Shell → String)
    (diagnosis : Diagnosis) :
    Alike
      { environment, accountHome, completion, diagnosis,
        color := wantsColor environment isTerminal }
      { environment := environment', accountHome, completion, diagnosis,
        color := wantsColor environment' isTerminal } where
  others := others
  accountHome := rfl
  color := wantsColor_alike others isTerminal
  completion := rfl

namespace Alike

variable {first second : Surroundings} (alike : Alike first second)
include alike

theorem globalConfig? : first.globalConfig? = second.globalConfig? := by
  have home : Environment.keyPath? "HOME" = none := by decide +kernel
  have directory : Environment.keyPath? "XDG_CONFIG_HOME" = none := by decide +kernel
  unfold Surroundings.globalConfig? Surroundings.configDirectory? Surroundings.home?
  rw [alike.others home, alike.others directory, alike.accountHome]

theorem newConfig (explicit : Option String) :
    Execution.newConfig first explicit = Execution.newConfig second explicit := by
  unfold Execution.newConfig
  rw [alike.globalConfig?]

end Alike

end Surroundings

/-! ## Without settings -/

namespace Execution

open Script (Blind)

theorem blind_configPath (surroundings : Surroundings) (explicit : Option String) :
    (configPath surroundings explicit).Blind := by
  unfold configPath
  cases surroundings.globalConfig? with
  | none => cases explicit with
    | none => exact (Blind.put _ _).bind fun _ => .done ()
    | some path => exact (Blind.put _ _).bind fun _ => .put _ _
  | some global => cases explicit with
    | none => exact .hasPath global fun _ => (Blind.put _ _).bind fun _ => .done ()
    | some path => exact .hasPath global fun _ => (Blind.put _ _).bind fun _ => .put _ _

theorem blind_makeParent (path : String) : (makeParent path).Blind := by
  unfold makeParent
  cases Path.parent? path with
  | none => exact .done ()
  | some parent =>
      refine .makeDirectories parent fun made => ?_
      cases made with
      | true => exact .done ()
      | false => exact .fail _

theorem blind_writeTemplate (path : String) : (writeTemplate path).Blind := by
  unfold writeTemplate
  refine .writeFile path Settings.template fun stored => ?_
  cases stored with
  | true => exact .done ()
  | false => exact .fail _

theorem blind_configInit (surroundings : Surroundings) (explicit : Option String) (force : Bool) :
    (configInit surroundings explicit force).Blind := by
  rcases newConfig_cases surroundings explicit with ⟨reason, missing⟩ | ⟨path, found⟩
  · rw [configInit, missing]
    exact .fail _
  · rw [configInit_eq found]
    refine .hasPath path fun taken => ?_
    split
    · exact .fail _
    · exact (blind_makeParent path).bind fun _ => (blind_writeTemplate path).bind fun _ => .put _ _

end Execution

/-- A file that was written is found where it was written to. -/
theorem FileTree.find?_of_writeFile? {files after : FileTree} {path : String} {content : Text.Bytes}
    (written : files.writeFile? path content = some after) :
    after.find? path = some (.file content) := by
  obtain ⟨location, leads, occupied, rfl⟩ := writeFile?_eq_some_iff.mp written
  have root : location ≠ [] := by
    rintro rfl
    exact occupied rfl
  have leads' : (files.put location (some (.file content))).locate path = some location :=
    locate_mono leads rfl (get?_put_of_directory occupied)
  rw [find?, leads', Option.bind_some, get?_put _ root]

/-- If a configuration file was made, it has the bytes of the template. -/
theorem Execution.Creation.find?_of_done {surroundings : Surroundings} {explicit : Option String}
    {force : Bool} {machine : Machine} {result : Outcome CommandError Unit × Machine}
    (creation : Creation surroundings explicit force machine result) (done : result.1 = .done ()) :
    ∃ path, newConfig surroundings explicit = .ok path ∧
      result.2.files.find? path = some (.file (encode Settings.template)) := by
  cases creation with
  | homeless missing => exact nomatch done
  | taken found present careful => exact nomatch done
  | unreachable found allowed parents => exact nomatch done
  | unwritable found allowed parents stored => exact nomatch done
  | @written path files files' found allowed parents stored =>
      refine ⟨path, found, ?_⟩
      rw [files_announceCreation]
      exact FileTree.find?_of_writeFile? stored

namespace Invocation

/-- Whether the command of an invocation needs settings: all commands but completions, `config path`
and `config init` do. -/
def needsSettings (invocation : Invocation) : Bool :=
  match invocation.command with
  | some (.completion _) => false
  | some .configPath => false
  | some (.configInit _) => false
  | _ => true

variable {invocation : Invocation}

theorem exists_action (needs : invocation.needsSettings = true) :
    ∃ action, action? invocation.command = some action := by
  obtain ⟨debug, config, strict, command⟩ := invocation
  cases command with
  | none => exact ⟨_, rfl⟩
  | some command =>
      cases command with
      | completion shell => exact nomatch needs
      | configPath => exact nomatch needs
      | configInit force => exact nomatch needs
      | _ => exact ⟨_, rfl⟩

/-- A command without settings is the same script in surroundings that are alike. -/
theorem execute_alike (independent : invocation.needsSettings = false)
    {surroundings surroundings' : Surroundings} (alike : surroundings.Alike surroundings') :
    invocation.execute surroundings = invocation.execute surroundings' := by
  obtain ⟨debug, config, strict, command⟩ := invocation
  cases command with
  | none => exact nomatch independent
  | some command =>
      cases command with
      | completion shell =>
          show Execution.completion _ _ = Execution.completion _ _
          unfold Execution.completion
          rw [alike.completion]
      | configPath =>
          show Execution.configPath _ _ = Execution.configPath _ _
          unfold Execution.configPath
          rw [alike.globalConfig?, alike.color]
      | configInit force =>
          show Execution.configInit _ _ _ = Execution.configInit _ _ _
          unfold Execution.configInit
          rw [alike.newConfig, alike.color]
      | _ => exact nomatch independent

theorem blind_execute (independent : invocation.needsSettings = false)
    (surroundings : Surroundings) : (invocation.execute surroundings).Blind := by
  obtain ⟨debug, config, strict, command⟩ := invocation
  cases command with
  | none => exact nomatch independent
  | some command =>
      cases command with
      | completion shell => exact .write _ _ (.done ())
      | configPath => exact Execution.blind_configPath surroundings config
      | configInit force => exact Execution.blind_configInit surroundings config force
      | _ => exact nomatch independent

/-! ## With settings -/

/-- A command that needs settings does nothing if they cannot be loaded. -/
theorem run_of_refused (needs : invocation.needsSettings = true) {surroundings : Surroundings}
    {machine : Machine} {error : RunError}
    (refused : ((Settings.load surroundings invocation.config).run machine).1 = .failed error) :
    (∃ message, error = .config message) ∧
      (invocation.execute surroundings).run machine = (.failed (.application error), machine) := by
  obtain ⟨action, needs⟩ := exists_action needs
  rcases Settings.load_cases surroundings invocation.config machine with
    ⟨loaded, success⟩ | ⟨cause, failure⟩
  · rw [success] at refused
    exact nomatch refused
  · rw [failure] at refused
    obtain rfl := Outcome.failed.inj refused
    exact ⟨⟨cause.message, rfl⟩, run_action_refused needs failure⟩

/-- What a command does without settings, and what all others do if there are none. In worlds that
differ in their variables for settings and in what their files hold, a command without settings has
the same result and the same output, and a configuration file that it makes has the same bytes. Where
loading the settings fails, every other command fails with the same error before it reads, writes or
looks at its expression. -/
theorem independent_of_configuration (invocation : Invocation) :
    (invocation.needsSettings = false → ∀ (surroundings surroundings' : Surroundings)
      (machine machine' : Machine), surroundings.Alike surroundings' → machine.Alike machine' →
      let here := (invocation.execute surroundings).run machine
      let there := (invocation.execute surroundings').run machine'
      here.1 = there.1 ∧ here.2.output = there.2.output ∧ here.2.input = there.2.input ∧
        here.2.files.Alike there.2.files ∧
        ∀ force, invocation.command = some (.configInit force) → here.1 = .done () →
          ∃ path, Execution.newConfig surroundings invocation.config = .ok path ∧
            Execution.newConfig surroundings' invocation.config = .ok path ∧
            here.2.files.find? path = some (.file (encode Settings.template)) ∧
            there.2.files.find? path = some (.file (encode Settings.template))) ∧
      (invocation.needsSettings = true → ∀ (surroundings : Surroundings) (machine : Machine)
        (error : RunError),
        ((Settings.load surroundings invocation.config).run machine).1 = .failed error →
        (∃ message, error = .config message) ∧
          (invocation.execute surroundings).run machine =
            (.failed (.application error), machine) ∧
          (CommandError.application error).exitCode.toNat = 78) := by
  constructor
  · intro independent surroundings surroundings' machine machine' around alike here there
    have blind := blind_execute independent surroundings'
    have same : here = (invocation.execute surroundings').run machine := by
      rw [← execute_alike independent around]
    obtain ⟨outcome, left⟩ := blind.run alike
    rw [← same] at outcome left
    refine ⟨outcome, left.output, left.input, left.files, ?_⟩
    intro force command done
    have creates (surroundings : Surroundings) :
        invocation.execute surroundings =
          Execution.configInit surroundings invocation.config force := by
      rw [execute, command]
    have created := Execution.creation_run surroundings invocation.config force machine
    have created' := Execution.creation_run surroundings' invocation.config force machine'
    rw [← creates] at created created'
    obtain ⟨path, found, stored⟩ := created.find?_of_done done
    obtain ⟨path', found', stored'⟩ := created'.find?_of_done (outcome.symm.trans done)
    obtain rfl : path = path' := by
      rw [around.newConfig] at found
      exact Except.ok.inj (found.symm.trans found')
    exact ⟨path, found, found', stored, stored'⟩
  · intro needs surroundings machine error refused
    obtain ⟨⟨message, rfl⟩, failed⟩ := run_of_refused needs refused
    exact ⟨⟨message, rfl⟩, failed, rfl⟩

/-- A configuration file that is no document is written over in one world and a sound one in the
other, where a variable is set too. Before that, a sum that lacks its operands is not even
looked at. -/
theorem independent_of_configuration_broken :
    let sound : Machine := { files := FileTree.put {} ["b"] (some (.file (encode "strict = true"))) }
    let broken : Machine := { files := FileTree.put {} ["b"] (some (.file (encode "strict"))) }
    let settled : Surroundings :=
      { environment := [("EXPTREE_STRICT", "on")],
        color := Surroundings.wantsColor [("EXPTREE_STRICT", "on")] false }
    let create : Invocation := { config := some "b", command := some (.configInit true) }
    let sum : Invocation := { config := some "b", command := some (.eval (some "+")) }
    ((create.execute settled).run sound).1 = .done () ∧
      ((create.execute settled).run sound).1 = ((create.execute {}).run broken).1 ∧
      ((create.execute settled).run sound).2.files.find? "b" =
        ((create.execute {}).run broken).2.files.find? "b" ∧
      (sum.execute {}).run broken =
        (.failed (.application (.config "parse b: TOML parse error")), broken) := by
  intro sound broken settled create sum
  have around : settled.Alike {} := by
    refine @Surroundings.alike_of_others [("EXPTREE_STRICT", "on")] [] ?_ none false
      Shell.noCompletion .opening
    intro name other
    have different : name ≠ "EXPTREE_STRICT" := by
      rintro rfl
      exact absurd other (by decide +kernel)
    show List.lookup name [("EXPTREE_STRICT", "on")] = none
    rw [List.lookup_cons, beq_false_of_ne different]
    rfl
  have files : sound.files.Alike broken.files :=
    FileTree.Alike.put ⟨rfl, fun _ => rfl⟩ ["b"] rfl
  have done : ((create.execute settled).run sound).1 = .done () := by decide +kernel
  obtain ⟨outcome, _, _, _, stored⟩ :=
    (independent_of_configuration create).1 rfl settled {} sound broken around ⟨files, rfl, rfl⟩
  obtain ⟨path, found, _, holds, holds'⟩ := stored true rfl done
  obtain rfl : path = "b" := (Except.ok.inj found).symm
  have refused : ((Settings.load {} sum.config).run broken).1 =
      .failed (.config "parse b: TOML parse error") := by decide +kernel
  obtain ⟨_, failed, _⟩ := (independent_of_configuration sum).2 rfl {} broken _ refused
  exact ⟨done, outcome, holds.trans holds'.symm, failed⟩

end Invocation

end PolishCalc

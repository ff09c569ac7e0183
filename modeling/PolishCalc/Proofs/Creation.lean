import PolishCalc.Execution
import PolishCalc.Proofs.FileTree
import PolishCalc.Proofs.Script

/-!
# How a configuration file is made

The one command that changes files, step by step: it looks for a path, asks whether something is
there, makes the directories above it, writes the file and tells about it.

* **endings** — `Execution.Creation`: the five ways in which this can end, each with what was done
  to the files by then. Every run is one of them (`Execution.creation_run`);
* **files** — only the last of them touches a file (`Execution.Creation.files_cases`). If it is not
  forced, a file that was there is kept unless the command took it for missing
  (`Execution.Creation.keeps_iff`).
-/

namespace PolishCalc

open Text (Bytes encode)

namespace Execution

variable {surroundings : Surroundings} {explicit : Option String} {force : Bool}
  {machine : Machine}

/-- What is told once the file is made. -/
def announceCreation (surroundings : Surroundings) (path : String) : Script CommandError Unit :=
  Script.put (Console.success surroundings.color ("Created " ++ path)) (ioError "write status")

/-- How making a configuration file ends. -/
inductive Creation (surroundings : Surroundings) (explicit : Option String) (force : Bool)
    (machine : Machine) : Outcome CommandError Unit × Machine → Prop
  /-- There is no path. -/
  | homeless {reason : String} :
      newConfig surroundings explicit = .error (.invalidArguments reason) →
      Creation surroundings explicit force machine
        (.failed (.invalidArguments reason), machine)
  /-- Something is there already. -/
  | taken {path : String} :
      newConfig surroundings explicit = .ok path → machine.files.hasPath path = true →
      force = false →
      Creation surroundings explicit force machine
        (.failed (.invalidArguments (path ++ " already exists (use --force to overwrite)")),
          machine)
  /-- The directories above it cannot be made. -/
  | unreachable {path parent : String} {files : FileTree} :
      newConfig surroundings explicit = .ok path →
      (machine.files.hasPath path = true → force = true) →
      machine.files.makeParent path = (files, false) →
      Creation surroundings explicit force machine
        (.failed (ioError ("create " ++ parent)), { machine with files })
  /-- The file cannot be written. -/
  | unwritable {path : String} {files : FileTree} :
      newConfig surroundings explicit = .ok path →
      (machine.files.hasPath path = true → force = true) →
      machine.files.makeParent path = (files, true) →
      files.writeFile? path (Text.encode Settings.template) = none →
      Creation surroundings explicit force machine
        (.failed (ioError ("write " ++ path)), { machine with files })
  /-- The file is written. -/
  | written {path : String} {files files' : FileTree} :
      newConfig surroundings explicit = .ok path →
      (machine.files.hasPath path = true → force = true) →
      machine.files.makeParent path = (files, true) →
      files.writeFile? path (Text.encode Settings.template) = some files' →
      Creation surroundings explicit force machine
        ((announceCreation surroundings path).run { machine with files := files' })

theorem run_makeParent (path : String) (machine : Machine) :
    ∃ parent, (makeParent path).run machine =
      ((if (machine.files.makeParent path).2 then .done ()
          else .failed (ioError ("create " ++ parent))),
        { machine with files := (machine.files.makeParent path).1 }) := by
  rw [makeParent, FileTree.makeParent]
  cases Path.parent? path with
  | none => exact ⟨"", rfl⟩
  | some parent =>
      refine ⟨parent, ?_⟩
      simp only [Script.run]
      cases (machine.files.makeDirectories parent).2 with
      | true => rfl
      | false => rfl

theorem run_writeTemplate (path : String) (machine : Machine) :
    (writeTemplate path).run machine =
      match machine.files.writeFile? path (Text.encode Settings.template) with
      | some files => (.done (), { machine with files })
      | none => (.failed (ioError ("write " ++ path)), machine) := by
  rw [writeTemplate, Script.run]
  cases machine.files.writeFile? path (Text.encode Settings.template) with
  | some files => rfl
  | none => rfl

theorem newConfig_cases (surroundings : Surroundings) (explicit : Option String) :
    (∃ reason, newConfig surroundings explicit = .error (.invalidArguments reason)) ∨
      ∃ path, newConfig surroundings explicit = .ok path := by
  rw [newConfig]
  cases explicit.or surroundings.globalConfig? with
  | none => exact .inl ⟨_, rfl⟩
  | some path => exact .inr ⟨path, rfl⟩

/-- The steps that follow once the path is known. -/
theorem configInit_eq {path : String} (found : newConfig surroundings explicit = .ok path) :
    configInit surroundings explicit force =
      .hasPath path fun taken =>
        if taken && !force then
          .fail (.invalidArguments (path ++ " already exists (use --force to overwrite)"))
        else
          (makeParent path).bind fun _ => (writeTemplate path).bind fun _ =>
            announceCreation surroundings path := by
  rw [configInit, found]
  rfl

theorem creation_run (surroundings : Surroundings) (explicit : Option String) (force : Bool)
    (machine : Machine) :
    Creation surroundings explicit force machine
      ((configInit surroundings explicit force).run machine) := by
  rcases newConfig_cases surroundings explicit with ⟨reason, missing⟩ | ⟨path, found⟩
  · rw [configInit, missing]
    exact .homeless missing
  · rw [configInit_eq found, Script.run]
    by_cases refused : (machine.files.hasPath path && !force) = true
    · rw [if_pos refused]
      rw [Bool.and_eq_true, Bool.not_eq_true'] at refused
      exact .taken found refused.1 refused.2
    · rw [if_neg refused]
      have allowed : machine.files.hasPath path = true → force = true := by simpa using refused
      obtain ⟨parent, made⟩ := run_makeParent path machine
      rw [Script.run_bind, made]
      cases parents : machine.files.makeParent path with
      | mk files complete =>
          cases complete with
          | false => exact .unreachable found allowed parents
          | true =>
              simp only [if_true, Script.proceed]
              rw [Script.run_bind, run_writeTemplate]
              cases stored : files.writeFile? path (Text.encode Settings.template) with
              | none => exact .unwritable found allowed parents stored
              | some files' => exact .written found allowed parents stored

/-! ## Files -/

/-- The path of the new file leads to the location, although nothing was found there when the
command asked. -/
def Overlooks (surroundings : Surroundings) (explicit : Option String) (files : FileTree)
    (location : Location) : Prop :=
  ∃ path, newConfig surroundings explicit = .ok path ∧ files.Hides path location

theorem overlooks_iff {path : String} (found : newConfig surroundings explicit = .ok path)
    {files : FileTree} {location : Location} :
    Overlooks surroundings explicit files location ↔ files.Hides path location := by
  constructor
  · rintro ⟨path', found', hides⟩
    obtain rfl := Except.ok.inj (found'.symm.trans found)
    exact hides
  · exact fun hides => ⟨path, found, hides⟩

theorem files_announceCreation (path : String) (machine : Machine) :
    ((announceCreation surroundings path).run machine).2.files = machine.files :=
  (Script.KeepsFiles.put _ _).run machine

namespace Creation

/-- Nothing but directories was added, and no file was overlooked. -/
structure Failed (surroundings : Surroundings) (explicit : Option String)
    (before : FileTree) (result : Outcome CommandError Unit × Machine) : Prop where
  failed : result.1 ≠ .done ()
  shape : result.2.files.WellFormed
  grows : before.Grows result.2.files
  saw {location : Location} {content : Bytes} :
    before.get? location = some (.file content) →
    ¬ Overlooks surroundings explicit before location

/-- The file is there now. Without force, it is the file that was overlooked, if there was one. -/
structure Succeeded (surroundings : Surroundings) (explicit : Option String) (force : Bool)
    (before : FileTree) (result : Outcome CommandError Unit × Machine) (path : String)
    (location : Location) : Prop where
  found : newConfig surroundings explicit = .ok path
  shape : result.2.files.WellFormed
  stored : before.Stored result.2.files path location (encode Settings.template)
  only : force = false → ∀ other, Overlooks surroundings explicit before other ↔ other = location

variable {result : Outcome CommandError Unit × Machine}

theorem files_cases (creation : Creation surroundings explicit force machine result)
    (wellFormed : machine.files.WellFormed) :
    Failed surroundings explicit machine.files result ∨
      ∃ path location,
        Succeeded surroundings explicit force machine.files result path location := by
  cases creation with
  | homeless missing =>
      refine .inl ⟨nofun, wellFormed, .refl _, ?_⟩
      rintro location content _ ⟨path, found, _⟩
      exact nomatch missing.symm.trans found
  | taken found present careful =>
      refine .inl ⟨nofun, wellFormed, .refl _, ?_⟩
      intro location content _ overlooked
      have hides := (overlooks_iff found).mp overlooked
      exact nomatch hides.unseen.symm.trans present
  | @unreachable path parent files found allowed parents =>
      obtain ⟨shape, grows⟩ := wellFormed.makeParent parents
      refine .inl ⟨nofun, shape, grows, ?_⟩
      intro location content _ overlooked
      obtain ⟨_, grown, made, _⟩ := (overlooks_iff found).mp overlooked
      exact nomatch made.symm.trans parents
  | @unwritable path files found allowed parents refused =>
      obtain ⟨shape, grows⟩ := wellFormed.makeParent parents
      refine .inl ⟨nofun, shape, grows, ?_⟩
      intro location content present overlooked
      obtain ⟨_, grown, made, leads⟩ := (overlooks_iff found).mp overlooked
      obtain rfl : grown = files := congrArg Prod.fst (made.symm.trans parents)
      -- the overlooked file could have been written
      have occupied := FileTree.directory_of_writeFile?_eq_none refused leads
      exact nomatch occupied.symm.trans (grows.keeps present)
  | @written path files files' found allowed parents stored =>
      obtain ⟨shape, location, leads, stored⟩ := wellFormed.store parents stored
      refine .inr ⟨path, location, found, ?_, ?_, ?_⟩
      · rwa [files_announceCreation]
      · rwa [files_announceCreation]
      · rintro rfl other
        rw [overlooks_iff found]
        constructor
        · rintro ⟨_, grown, made, leads'⟩
          obtain rfl : grown = files := congrArg Prod.fst (made.symm.trans parents)
          exact Option.some.inj (leads'.symm.trans leads)
        · rintro rfl
          refine ⟨?_, files, parents, leads⟩
          rw [← Bool.not_eq_true]
          exact fun present => nomatch allowed present

/-- Without force, the files that are changed are those that were overlooked. -/
theorem keeps_iff (creation : Creation surroundings explicit false machine result)
    (wellFormed : machine.files.WellFormed) {location : Location} {content : Bytes}
    (present : machine.files.get? location = some (.file content)) :
    result.2.files.get? location = some (.file content) ↔
      (Overlooks surroundings explicit machine.files location →
        content = encode Settings.template) := by
  rcases creation.files_cases wellFormed with failure | ⟨path, target, success⟩
  · exact iff_of_true (failure.grows.keeps present) fun overlooked =>
      absurd overlooked (failure.saw present)
  · rw [success.only rfl]
    by_cases same : location = target
    · rw [same, success.stored.holds]
      simp [eq_comm]
    · exact iff_of_true ((success.stored.others same content).mpr present) fun overlooked =>
        absurd overlooked same

end Creation

end Execution

end PolishCalc

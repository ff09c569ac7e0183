import PolishCalc.Surroundings

/-!
# The place of the global file

* **paths** — a name below a directory follows the slash at its end, or one more
  (`Path.below_eq`);
* **directories** — the home directory is the one in `HOME`, unless that is empty, or that of the
  account (`Surroundings.home?_eq_some_iff`). The directory of configuration files is the one in
  `XDG_CONFIG_HOME` if that is absolute, or else `.config` below the home directory
  (`Surroundings.configDirectory?_eq_some_iff`);
* **the file** — it lies below that directory (`Surroundings.globalConfig?_eq_some_iff`).
-/

namespace PolishCalc

/-! ## Paths -/

/-- A directory as the start of the paths below it: with a slash at its end, unless it has one. -/
def Path.slashed (directory : String) : String :=
  if directory = "" ∨ directory.toList.getLast? = some '/' then directory else directory ++ "/"

theorem Path.below_eq (directory name : String) :
    below directory name = slashed directory ++ name := by
  rw [below, slashed]
  simp only [Bool.or_eq_true, String.isEmpty_iff, beq_iff_eq]
  split
  · rfl
  · rfl

/-- A path that ends with a name goes on after a slash. -/
theorem Path.slashed_append {name : String} {last : Char}
    (ends : name.toList.getLast? = some last) (proper : last ≠ '/') (directory : String) :
    slashed (directory ++ name) = directory ++ name ++ "/" := by
  have ends : (directory ++ name).toList.getLast? = some last := by
    rw [String.toList_append, List.getLast?_append, ends, Option.some_or]
  rw [slashed, if_neg]
  rintro (empty | slash)
  · rw [empty] at ends
    cases ends
  · exact proper (Option.some.inj (ends.symm.trans slash))

namespace Surroundings

/-! ## Directories -/

/-- The home directory of the user: the one that `HOME` names, or else that of the account. -/
inductive Home (surroundings : Surroundings) : String → Prop
  | named {home : String} : surroundings.environment.get? "HOME" = some home → home ≠ "" →
      Home surroundings home
  | ofAccount {home : String} :
      (∀ named, surroundings.environment.get? "HOME" = some named → named = "") →
      surroundings.accountHome = some home → Home surroundings home

/-- The global file lies below the absolute directory that `XDG_CONFIG_HOME` names, or else below
the home directory. Users without a home directory have none. -/
inductive GlobalFile (surroundings : Surroundings) : String → Prop
  | named {home directory : String} : Home surroundings home →
      surroundings.environment.get? "XDG_CONFIG_HOME" = some directory →
      directory.toList.head? = some '/' →
      GlobalFile surroundings (Path.slashed directory ++ "exptree/exptree.toml")
  | ofHome {home : String} : Home surroundings home →
      (∀ named, surroundings.environment.get? "XDG_CONFIG_HOME" = some named →
        named.toList.head? ≠ some '/') →
      GlobalFile surroundings (Path.slashed home ++ ".config/exptree/exptree.toml")

theorem home?_eq_some_iff {surroundings : Surroundings} {home : String} :
    surroundings.home? = some home ↔ Home surroundings home := by
  rw [home?]
  constructor
  · intro found
    split at found
    · next named given =>
      split at found
      · next empty =>
        refine .ofAccount ?_ found
        rintro other same
        rw [given, Option.some.injEq] at same
        rw [← same]
        exact String.isEmpty_iff.mp empty
      · next proper =>
        obtain rfl := Option.some.inj found
        exact .named given fun empty => proper (String.isEmpty_iff.mpr empty)
    · next absent => exact .ofAccount (fun named given => nomatch absent.symm.trans given) found
  · rintro (⟨given, proper⟩ | ⟨idle, account⟩)
    · have proper : home.isEmpty = false := by simpa using proper
      simp only [given, proper, Bool.false_eq_true, if_false]
    · split
      · next named given =>
        rw [idle named given]
        exact account
      · exact account

theorem configDirectory?_eq_some_iff {surroundings : Surroundings} {directory : String} :
    surroundings.configDirectory? = some directory ↔
      ∃ home, Home surroundings home ∧
        (surroundings.environment.get? "XDG_CONFIG_HOME" = some directory ∧
            directory.toList.head? = some '/' ∨
          (∀ named, surroundings.environment.get? "XDG_CONFIG_HOME" = some named →
            named.toList.head? ≠ some '/') ∧ directory = Path.below home ".config") := by
  simp only [configDirectory?, Option.bind_eq_bind, Option.bind_eq_some_iff, home?_eq_some_iff]
  refine exists_congr fun home => and_congr_right fun _ => ?_
  cases surroundings.environment.get? "XDG_CONFIG_HOME" with
  | none => simp [eq_comm]
  | some named =>
      by_cases rooted : named.toList.head? = some '/'
      · have absolute : Path.isAbsolute named = true := beq_iff_eq.mpr rooted
        simp only [absolute, if_true, Option.some.injEq]
        constructor
        · rintro rfl
          exact .inl ⟨rfl, rooted⟩
        · rintro (⟨same, _⟩ | ⟨unrooted, _⟩)
          · exact same
          · exact absurd rooted (unrooted named rfl)
      · have relative : Path.isAbsolute named = false := beq_eq_false_iff_ne.mpr rooted
        simp only [relative, Bool.false_eq_true, if_false, Option.some.injEq]
        constructor
        · rintro rfl
          exact .inr ⟨fun _ same => same ▸ rooted, rfl⟩
        · rintro (⟨rfl, rooted'⟩ | ⟨_, rfl⟩)
          · exact absurd rooted' rooted
          · rfl

/-! ## The file -/

theorem configFile_eq (directory : String) :
    Path.below (Path.below directory "exptree") "exptree.toml" =
      Path.slashed directory ++ "exptree/exptree.toml" := by
  have ends : "exptree".toList.getLast? = some 'e' := by decide +kernel
  rw [Path.below_eq, Path.below_eq, Path.slashed_append ends (by decide), String.append_assoc,
    String.append_assoc]
  rfl

theorem configFile_ofHome_eq (home : String) :
    Path.slashed (Path.below home ".config") ++ "exptree/exptree.toml" =
      Path.slashed home ++ ".config/exptree/exptree.toml" := by
  have ends : ".config".toList.getLast? = some 'g' := by decide +kernel
  rw [Path.below_eq, Path.slashed_append ends (by decide), String.append_assoc,
    String.append_assoc]
  rfl

theorem globalConfig?_eq_some_iff {surroundings : Surroundings} {path : String} :
    surroundings.globalConfig? = some path ↔ GlobalFile surroundings path := by
  have located : surroundings.globalConfig? = surroundings.configDirectory?.map fun directory =>
      Path.slashed directory ++ "exptree/exptree.toml" := by
    rw [globalConfig?]
    cases surroundings.configDirectory? with
    | none => rfl
    | some directory => exact congrArg some (configFile_eq directory)
  rw [located, Option.map_eq_some_iff]
  constructor
  · rintro ⟨directory, place, rfl⟩
    obtain ⟨home, settled, ⟨given, rooted⟩ | ⟨unrooted, rfl⟩⟩ :=
      configDirectory?_eq_some_iff.mp place
    · exact .named settled given rooted
    · rw [configFile_ofHome_eq]
      exact .ofHome settled unrooted
  · rintro (⟨settled, given, rooted⟩ | ⟨settled, unrooted⟩)
    · exact ⟨_, configDirectory?_eq_some_iff.mpr ⟨_, settled, .inl ⟨given, rooted⟩⟩, rfl⟩
    · exact ⟨_, configDirectory?_eq_some_iff.mpr ⟨_, settled, .inr ⟨unrooted, rfl⟩⟩,
        configFile_ofHome_eq _⟩

end Surroundings

end PolishCalc

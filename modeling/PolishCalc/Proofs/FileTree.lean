import PolishCalc.Host.FileTree

/-!
# Laws of file trees

What a path leads to, before and after directories are made and a file is written.

* **shape** — `FileTree.WellFormed`: whatever there is stands in a directory, and so does the
  working directory. Making directories and writing a file preserve this
  (`FileTree.WellFormed.makeBelow`, `FileTree.WellFormed.put`);
* **growth** — `FileTree.Grows`: directories are added and nothing else is changed. Making
  directories does this, also where it fails half-way (`FileTree.grows_makeBelow`);
* **paths** — a path that leads somewhere leads there as long as directories stay
  (`FileTree.locate_mono`), and new directories show a file to a path that did not lead to it before
  only if the path goes up (`FileTree.Hides.goesUp`);
* **a new file** — `FileTree.Stored`: what a file that is written to a path changes and what not
  (`FileTree.WellFormed.store`).
-/

namespace PolishCalc

open Text (Bytes)

namespace FileTree

variable {files before after : FileTree} {location here : Location}

theorem isDirectory_iff : files.isDirectory location = true ↔
    files.get? location = some .directory := by
  rw [isDirectory, beq_iff_eq]

/-! ## Shape -/

/-- Whatever there is stands in a directory. -/
structure WellFormed (files : FileTree) : Prop where
  above {location : Location} {name : String} {entry : Entry} :
    files.get? (location ++ [name]) = some entry → files.get? location = some .directory
  working : files.get? files.workingDirectory = some .directory

theorem wellFormed_empty : ({} : FileTree).WellFormed where
  above := by
    intro location name entry present
    rw [get?, if_neg (List.concat_ne_nil _ _)] at present
    cases present
  working := rfl

namespace WellFormed

theorem above_of_append (wellFormed : files.WellFormed) {below : List String} {entry : Entry}
    (present : files.get? (location ++ below) = some entry) (proper : below ≠ []) :
    files.get? location = some .directory := by
  induction below generalizing location with
  | nil => exact absurd rfl proper
  | cons name below ih =>
      rw [List.append_cons] at present
      cases below with
      | nil =>
          rw [List.append_nil] at present
          exact wellFormed.above present
      | cons next below => exact wellFormed.above (ih present (List.cons_ne_nil next below))

/-- Also the location above the root, which is the root, is a directory. -/
theorem above_dropLast (wellFormed : files.WellFormed) {entry : Entry}
    (present : files.get? location = some entry) :
    files.get? location.dropLast = some .directory := by
  by_cases root : location = []
  · rw [root]
    rfl
  · rw [← List.dropLast_concat_getLast root] at present
    exact wellFormed.above present

end WellFormed

/-- A change at a location where there is no directory leaves the directories. -/
theorem get?_put_of_directory {entry : Option Entry} (free : files.get? location ≠ some .directory)
    (stands : files.get? here = some .directory) :
    (files.put location entry).get? here = some .directory := by
  rw [get?_put_of_ne, stands]
  rintro rfl
  exact free stands

/-- Something new in a directory, which is not put over another directory, fits in. -/
theorem WellFormed.put (wellFormed : files.WellFormed)
    (below : files.get? location.dropLast = some .directory)
    (free : files.get? location ≠ some .directory) (entry : Entry) :
    (files.put location (some entry)).WellFormed where
  above := by
    intro above name found present
    apply get?_put_of_directory free
    by_cases new : above ++ [name] = location
    · rw [← new, List.dropLast_concat] at below
      exact below
    · rw [get?_put_of_ne _ new] at present
      exact wellFormed.above present
  working := get?_put_of_directory free wellFormed.working

/-! ## Growth -/

/-- Directories are added and nothing else is changed. -/
structure Grows (before after : FileTree) : Prop where
  working : after.workingDirectory = before.workingDirectory
  keeps {location : Location} {entry : Entry} :
    before.get? location = some entry → after.get? location = some entry
  adds {location : Location} {content : Bytes} :
    after.get? location = some (.file content) → before.get? location = some (.file content)

namespace Grows

theorem refl (files : FileTree) : Grows files files where
  working := rfl
  keeps := id
  adds := id

theorem trans {between : FileTree} (first : Grows before between) (second : Grows between after) :
    Grows before after where
  working := second.working.trans first.working
  keeps := second.keeps ∘ first.keeps
  adds := first.adds ∘ second.adds

theorem file_iff (grows : Grows before after) {content : Bytes} :
    after.get? location = some (.file content) ↔ before.get? location = some (.file content) :=
  ⟨grows.adds, grows.keeps⟩

end Grows

theorem grows_put_directory (missing : files.get? location = none) :
    Grows files (files.put location (some .directory)) where
  working := rfl
  keeps := by
    intro other entry present
    rw [get?_put_of_ne, present]
    rintro rfl
    exact nomatch missing.symm.trans present
  adds := by
    intro other content present
    by_cases new : other = location
    · subst new
      have below : other ≠ [] := by
        rintro rfl
        exact nomatch missing
      rw [get?_put _ below] at present
      exact nomatch present
    · rwa [get?_put_of_ne _ new] at present

/-- Making directories from a directory on adds directories, and the tree keeps its shape. -/
theorem WellFormed.makeBelow (wellFormed : files.WellFormed)
    (stands : files.get? here = some .directory) (components : List (List Char)) :
    (files.makeBelow here components).1.WellFormed ∧
      Grows files (files.makeBelow here components).1 := by
  induction components generalizing files here with
  | nil => exact ⟨wellFormed, .refl files⟩
  | cons name rest ih =>
      simp only [FileTree.makeBelow]
      split
      · exact ih wellFormed stands
      split
      · exact ih wellFormed (wellFormed.above_dropLast stands)
      split
      · next made => exact ih wellFormed made
      · exact ⟨wellFormed, .refl files⟩
      · next missing =>
          split
          · -- the new directory stands in `here`, and the rest is made below it
            have free : files.get? (here ++ [String.ofList name]) ≠ some .directory := by
              rw [missing]
              exact nofun
            have below : files.get? (here ++ [String.ofList name]).dropLast = some .directory := by
              rwa [List.dropLast_concat]
            have added := grows_put_directory missing
            obtain ⟨shape, grows⟩ := ih (wellFormed.put below free .directory)
              (get?_put (some .directory) (List.concat_ne_nil _ _))
            exact ⟨shape, added.trans grows⟩
          · exact ⟨wellFormed, .refl files⟩

/-- The place where a path starts is a directory. -/
theorem WellFormed.start (wellFormed : files.WellFormed) (path : String) :
    files.get? (files.start path).1 = some .directory := by
  simp only [FileTree.start]
  split
  · rfl
  · exact wellFormed.working

theorem WellFormed.makeDirectories (wellFormed : files.WellFormed) (path : String) :
    (files.makeDirectories path).1.WellFormed ∧ Grows files (files.makeDirectories path).1 := by
  simp only [FileTree.makeDirectories]
  split
  · exact ⟨wellFormed, .refl files⟩
  split
  · exact wellFormed.makeBelow (wellFormed.start path) _
  · exact ⟨wellFormed, .refl files⟩

/-- Makes the directories above a path, and says whether all of them are there now. -/
def makeParent (files : FileTree) (path : String) : FileTree × Bool :=
  match Path.parent? path with
  | none => (files, true)
  | some parent => files.makeDirectories parent

theorem WellFormed.makeParent (wellFormed : before.WellFormed) {path : String} {complete : Bool}
    (made : before.makeParent path = (after, complete)) : after.WellFormed ∧ Grows before after := by
  rw [FileTree.makeParent] at made
  cases above : Path.parent? path with
  | none =>
      rw [above] at made
      obtain rfl := congrArg Prod.fst made
      exact ⟨wellFormed, .refl before⟩
  | some parent =>
      rw [above] at made
      obtain rfl := congrArg Prod.fst made
      exact wellFormed.makeDirectories parent

/-! ## Paths -/

/-- The place that one component leads to from a directory. -/
def next? (here : Location) (name : List Char) : Option Location :=
  if Path.isIdle name then some here
  else if name = ['.', '.'] then some here.dropLast
  else if fitsName name then some (here ++ [String.ofList name])
  else none

/-- Following components is taking them one by one, each in a directory. -/
theorem follow_cons_iff {name : List Char} {rest : List (List Char)} :
    files.follow here (name :: rest) = some location ↔
      files.get? here = some .directory ∧
        ∃ next ∈ next? here name, files.follow next rest = some location := by
  rw [← isDirectory_iff, follow, next?]
  cases files.isDirectory here with
  | false => simp
  | true =>
      simp only [Bool.not_true, Bool.false_eq_true, if_false, true_and]
      split
      · simp
      split
      · simp
      split
      · simp
      · simp

theorem WellFormed.next (wellFormed : files.WellFormed) {name : List Char} {next : Location}
    (stands : files.get? here = some .directory) (leads : next ∈ next? here name) :
    files.get? next.dropLast = some .directory := by
  have stood := wellFormed.above_dropLast stands
  rw [next?] at leads
  split at leads
  · obtain rfl := Option.some.inj leads
    exact stood
  split at leads
  · obtain rfl := Option.some.inj leads
    exact wellFormed.above_dropLast stood
  split at leads
  · obtain rfl := Option.some.inj leads
    rwa [List.dropLast_concat]
  · exact nomatch leads

/-- A path leads to a place in a directory. -/
theorem WellFormed.follow (wellFormed : files.WellFormed) {components : List (List Char)}
    (below : files.get? here.dropLast = some .directory)
    (leads : files.follow here components = some location) :
    files.get? location.dropLast = some .directory := by
  induction components generalizing here with
  | nil =>
      obtain rfl := Option.some.inj leads
      exact below
  | cons name rest ih =>
      obtain ⟨stands, next, turn, leads⟩ := follow_cons_iff.mp leads
      exact ih (wellFormed.next stands turn) leads

theorem WellFormed.locate (wellFormed : files.WellFormed) {path : String}
    (leads : files.locate path = some location) :
    files.get? location.dropLast = some .directory := by
  rw [FileTree.locate] at leads
  split at leads
  · exact wellFormed.follow (wellFormed.above_dropLast (wellFormed.start path)) leads
  · exact nomatch leads

theorem follow_mono
    (stay : ∀ {place}, before.get? place = some .directory → after.get? place = some .directory)
    {components : List (List Char)} (leads : before.follow here components = some location) :
    after.follow here components = some location := by
  induction components generalizing here with
  | nil => exact leads
  | cons name rest ih =>
      obtain ⟨stands, next, turn, leads⟩ := follow_cons_iff.mp leads
      exact follow_cons_iff.mpr ⟨stay stands, next, turn, ih leads⟩

/-- A path leads to the same location as long as the directories stay. -/
theorem locate_mono {path : String} (leads : before.locate path = some location)
    (working : after.workingDirectory = before.workingDirectory)
    (stay : ∀ {place}, before.get? place = some .directory → after.get? place = some .directory) :
    after.locate path = some location := by
  rw [locate] at leads ⊢
  split at leads
  · next fits =>
      rw [if_pos fits]
      simp only [start, working] at leads ⊢
      exact follow_mono stay leads
  · exact nomatch leads

theorem prefix_of_next {name : List Char} {next : Location} (down : name ≠ ['.', '.'])
    (leads : next ∈ next? here name) : here <+: next := by
  rw [next?, if_neg down] at leads
  split at leads
  · obtain rfl := Option.some.inj leads
    exact List.prefix_rfl
  split at leads
  · obtain rfl := Option.some.inj leads
    exact List.prefix_append here _
  · exact nomatch leads

/-- Components that do not go up lead to a location below the first one. -/
theorem prefix_of_follow {components : List (List Char)} (straight : ['.', '.'] ∉ components)
    (leads : files.follow here components = some location) : here <+: location := by
  induction components generalizing here with
  | nil =>
      obtain rfl := Option.some.inj leads
      exact List.prefix_rfl
  | cons name rest ih =>
      obtain ⟨down, straight⟩ := List.ne_and_not_mem_of_not_mem_cons straight
      obtain ⟨_, next, turn, leads⟩ := follow_cons_iff.mp leads
      exact (prefix_of_next (Ne.symm down) turn).trans (ih straight leads)

/-- Components that do not go up, and lead to a file that was there before directories were added,
have led to it before: they only pass directories above the file. -/
theorem Grows.follow (grows : Grows before after) (wellFormed : before.WellFormed)
    {components : List (List Char)} (straight : ['.', '.'] ∉ components) {content : Bytes}
    (present : before.get? location = some (.file content))
    (leads : after.follow here components = some location) :
    before.follow here components = some location := by
  induction components generalizing here with
  | nil => exact leads
  | cons name rest ih =>
      obtain ⟨below, rfl⟩ := prefix_of_follow straight leads
      obtain ⟨stands, next, turn, leads⟩ := follow_cons_iff.mp leads
      have proper : below ≠ [] := by
        rintro rfl
        rw [List.append_nil] at present
        exact nomatch stands.symm.trans (grows.keeps present)
      have stood := wellFormed.above_of_append present proper
      have later := ih (List.not_mem_of_not_mem_cons straight) leads
      exact follow_cons_iff.mpr ⟨stood, next, turn, later⟩

/-- Nothing is found at the path, but after the directories above it are made the path leads to the
location. -/
structure Hides (files : FileTree) (path : String) (location : Location) : Prop where
  unseen : files.hasPath path = false
  shown : ∃ grown, files.makeParent path = (grown, true) ∧ grown.locate path = some location

/-- Only a path that goes up hides a file. -/
theorem Hides.goesUp {path : String} (hides : files.Hides path location)
    (wellFormed : files.WellFormed) {content : Bytes}
    (present : files.get? location = some (.file content)) :
    ['.', '.'] ∈ Path.split path.toList := by
  refine Decidable.byContradiction fun straight => ?_
  obtain ⟨unseen, grown, made, leads⟩ := hides
  obtain ⟨_, grows⟩ := wellFormed.makeParent made
  have found : files.find? path = some (.file content) := by
    rw [locate] at leads
    split at leads
    · next fits =>
        simp only [start, grows.working] at leads
        rw [find?, locate, if_pos fits]
        simp only [start]
        rw [grows.follow wellFormed straight present leads, Option.bind_some, present]
    · exact nomatch leads
  rw [hasPath, found] at unseen
  exact nomatch unseen

/-! ## A new file -/

theorem writeFile?_eq_some_iff {path : String} {content : Bytes} :
    files.writeFile? path content = some after ↔
      ∃ location, files.locate path = some location ∧ files.get? location ≠ some .directory ∧
        after = files.put location (some (.file content)) := by
  rw [writeFile?]
  cases files.locate path with
  | none => simp
  | some location =>
      by_cases occupied : files.get? location = some .directory
      · simp [isDirectory_iff, occupied]
      · simp [isDirectory_iff, occupied, @eq_comm _ after]

/-- Only a directory is not written over. -/
theorem directory_of_writeFile?_eq_none {path : String} {content : Bytes}
    (refused : files.writeFile? path content = none) (leads : files.locate path = some location) :
    files.get? location = some .directory := by
  refine Decidable.byContradiction fun free => ?_
  have written : files.writeFile? path content = some (files.put location (some (.file content))) :=
    writeFile?_eq_some_iff.mpr ⟨location, leads, free, rfl⟩
  exact nomatch refused.symm.trans written

/-- A path leads to a file with the content now, below nothing but directories, and all other files
are as before. -/
structure Stored (before after : FileTree) (path : String) (location : Location)
    (content : Bytes) : Prop where
  leads : after.locate path = some location
  holds : after.get? location = some (.file content)
  stands {above : Location} :
    above <+: location → above ≠ location → after.get? above = some .directory
  others {other : Location} : other ≠ location →
    ∀ kept, after.get? other = some (.file kept) ↔ before.get? other = some (.file kept)

/-- A file that is written after the directories above its path were made is stored. -/
theorem WellFormed.store (wellFormed : before.WellFormed) {path : String} {content : Bytes}
    {complete : Bool} (made : before.makeParent path = (files, complete))
    (written : files.writeFile? path content = some after) :
    after.WellFormed ∧ ∃ location,
      files.locate path = some location ∧ Stored before after path location content := by
  obtain ⟨shape, grows⟩ := wellFormed.makeParent made
  obtain ⟨location, leads, occupied, rfl⟩ := writeFile?_eq_some_iff.mp written
  have root : location ≠ [] := by
    rintro rfl
    exact occupied rfl
  have shape' := shape.put (shape.locate leads) occupied (.file content)
  have holds : (files.put location (some (.file content))).get? location =
      some (.file content) := get?_put _ root
  refine ⟨shape', location, leads, ?_, holds, ?_, ?_⟩
  · exact locate_mono leads rfl (get?_put_of_directory occupied)
  · rintro above ⟨below, rfl⟩ proper
    refine shape'.above_of_append holds ?_
    rintro rfl
    exact proper (List.append_nil above).symm
  · intro other different kept
    rw [get?_put_of_ne _ different]
    exact grows.file_iff

end FileTree

end PolishCalc

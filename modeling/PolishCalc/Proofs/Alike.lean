import PolishCalc.Proofs.FileTree
import PolishCalc.Proofs.Script

/-!
# Machines that differ in what files hold

Two file trees are alike if the same files and directories are at the same places; what the files
hold may differ. Two machines are alike if their file trees are, and all else is equal.

* **file trees** — a path leads to the same place in trees that are alike (`FileTree.Alike.locate`),
  and making directories or writing a file has the same answer in both and leaves them alike
  (`FileTree.Alike.makeDirectories`, `FileTree.Alike.writeFile?`);
* **scripts** — `script.Blind`: no step of the script reads a file. On machines that are alike such
  a script ends in the same way, and the machines are alike again (`Script.Blind.run`).
-/

namespace PolishCalc

open Text (Bytes)

/-- Whether an entry is a directory. -/
def Entry.isDirectory : Entry → Bool
  | .file _ => false
  | .directory => true

namespace FileTree

/-- The same files and directories are at the same places. -/
structure Alike (first second : FileTree) : Prop where
  working : first.workingDirectory = second.workingDirectory
  kinds (location : Location) :
    (first.get? location).map Entry.isDirectory = (second.get? location).map Entry.isDirectory

namespace Alike

variable {first second : FileTree} (alike : Alike first second)
include alike

theorem isSome_get? (location : Location) :
    (first.get? location).isSome = (second.get? location).isSome := by
  rw [← Option.isSome_map, alike.kinds, Option.isSome_map]

/-- What is at a place, in both trees at once. -/
theorem get?_cases (location : Location) :
    (first.get? location = none ∧ second.get? location = none) ∨
      (first.get? location = some .directory ∧ second.get? location = some .directory) ∨
      ∃ content content', first.get? location = some (.file content) ∧
        second.get? location = some (.file content') := by
  have same := alike.kinds location
  cases there : first.get? location with
  | none =>
      rw [there, Option.map_none, eq_comm, Option.map_eq_none_iff] at same
      exact .inl ⟨rfl, same⟩
  | some entry =>
      rw [there, Option.map_some, eq_comm, Option.map_eq_some_iff] at same
      obtain ⟨entry', there', same⟩ := same
      cases entry with
      | directory =>
          cases entry' with
          | directory => exact .inr (.inl ⟨rfl, there'⟩)
          | file content' => exact nomatch same
      | file content =>
          cases entry' with
          | directory => exact nomatch same
          | file content' => exact .inr (.inr ⟨content, content', rfl, there'⟩)

theorem isDirectory (location : Location) :
    first.isDirectory location = second.isDirectory location := by
  unfold FileTree.isDirectory
  rcases alike.get?_cases location with
    ⟨there, there'⟩ | ⟨there, there'⟩ | ⟨content, content', there, there'⟩
  · rw [there, there']
  · rw [there, there']
  · rw [there, there']
    rfl

theorem follow (here : Location) (components : List (List Char)) :
    first.follow here components = second.follow here components := by
  induction components generalizing here with
  | nil => rfl
  | cons name rest ih =>
      unfold FileTree.follow
      simp only [alike.isDirectory, ih]

theorem start (path : String) : first.start path = second.start path := by
  unfold FileTree.start
  rw [alike.working]

theorem locate (path : String) : first.locate path = second.locate path := by
  unfold FileTree.locate
  simp only [alike.start, alike.follow]

theorem hasPath (path : String) : first.hasPath path = second.hasPath path := by
  unfold FileTree.hasPath FileTree.find?
  rw [alike.locate]
  cases second.locate path with
  | none => rfl
  | some location => exact alike.isSome_get? location

/-- New entries of one kind at the same place. -/
theorem put (location : Location) {entry entry' : Option Entry}
    (same : entry.map Entry.isDirectory = entry'.map Entry.isDirectory) :
    Alike (first.put location entry) (second.put location entry') where
  working := alike.working
  kinds := by
    intro other
    by_cases root : other = []
    · rw [root]
      rfl
    · by_cases changed : other = location
      · subst changed
        rw [get?_put entry root, get?_put entry' root]
        exact same
      · rw [get?_put_of_ne entry changed, get?_put_of_ne entry' changed]
        exact alike.kinds other

theorem writeFile? (path : String) (content : Bytes) :
    Option.Rel Alike (first.writeFile? path content) (second.writeFile? path content) := by
  unfold FileTree.writeFile?
  rw [alike.locate]
  cases second.locate path with
  | none => exact .none
  | some location =>
      show Option.Rel Alike (if first.isDirectory location then _ else _)
        (if second.isDirectory location then _ else _)
      rw [alike.isDirectory]
      cases second.isDirectory location with
      | true => exact .none
      | false => exact .some (alike.put location rfl)

omit alike in
theorem makeBelow (alike : Alike first second) (here : Location)
    (components : List (List Char)) :
    Alike (first.makeBelow here components).1 (second.makeBelow here components).1 ∧
      (first.makeBelow here components).2 = (second.makeBelow here components).2 := by
  induction components generalizing first second here with
  | nil => exact ⟨alike, rfl⟩
  | cons name rest ih =>
      simp only [FileTree.makeBelow]
      by_cases idle : Path.isIdle name = true
      · simp only [if_pos idle]
        exact ih alike here
      simp only [if_neg idle]
      by_cases up : name = ['.', '.']
      · simp only [if_pos up]
        exact ih alike here.dropLast
      simp only [if_neg up]
      rcases alike.get?_cases (here ++ [String.ofList name]) with
        ⟨there, there'⟩ | ⟨there, there'⟩ | ⟨content, content', there, there'⟩
      · simp only [there, there']
        by_cases fits : fitsName name = true
        · simp only [if_pos fits]
          exact ih (alike.put _ rfl) _
        · simp only [if_neg fits]
          exact ⟨alike, trivial⟩
      · simp only [there, there']
        exact ih alike _
      · simp only [there, there']
        exact ⟨alike, trivial⟩

theorem makeDirectories (path : String) :
    Alike (first.makeDirectories path).1 (second.makeDirectories path).1 ∧
      (first.makeDirectories path).2 = (second.makeDirectories path).2 := by
  unfold FileTree.makeDirectories
  by_cases empty : path.isEmpty = true
  · simp only [if_pos empty]
    exact ⟨alike, trivial⟩
  simp only [if_neg empty]
  by_cases fits : fitsPath path = true
  · simp only [if_pos fits, alike.start]
    exact alike.makeBelow _ _
  · simp only [if_neg fits]
    exact ⟨alike, trivial⟩

end Alike

end FileTree

/-- Machines with file trees that are alike and with the same input and output. -/
structure Machine.Alike (first second : Machine) : Prop where
  files : first.files.Alike second.files
  input : first.input = second.input
  output : first.output = second.output

namespace Script

variable {ε α β : Type}

/-- The script has no step that reads a file, whatever it reads otherwise and is answered. -/
inductive Blind : Script ε α → Prop
  | done (value : α) : Blind (.done value)
  | fail (error : ε) : Blind (.fail error)
  | abort : Blind .abort
  | write (text : String) (onFailure : Option ε) {rest : Script ε α} :
      rest.Blind → Blind (.write text onFailure rest)
  | readLine (onFailure : ε) {rest : String → Script ε α} :
      (∀ line, (rest line).Blind) → Blind (.readLine onFailure rest)
  | hasPath (path : String) {rest : Bool → Script ε α} :
      (∀ answer, (rest answer).Blind) → Blind (.hasPath path rest)
  | makeDirectories (path : String) {rest : Bool → Script ε α} :
      (∀ answer, (rest answer).Blind) → Blind (.makeDirectories path rest)
  | writeFile (path text : String) {rest : Bool → Script ε α} :
      (∀ answer, (rest answer).Blind) → Blind (.writeFile path text rest)

namespace Blind

theorem bind {script : Script ε α} (first : script.Blind) {next : α → Script ε β}
    (later : ∀ value, (next value).Blind) : (script.bind next).Blind := by
  induction first with
  | done value => exact later value
  | fail error => exact .fail error
  | abort => exact .abort
  | write text onFailure _ ih => exact .write text onFailure ih
  | readLine onFailure _ ih => exact .readLine onFailure ih
  | hasPath path _ ih => exact .hasPath path ih
  | makeDirectories path _ ih => exact .makeDirectories path ih
  | writeFile path text _ ih => exact .writeFile path text ih

theorem ofExcept (result : Except ε α) : (ofExcept result).Blind := by
  cases result with
  | ok value => exact .done value
  | error error => exact .fail error

theorem put (text : String) (onFailure : ε) : (Script.put text onFailure).Blind :=
  .write text (some onFailure) (.done ())

/-- A script that reads no file does the same on machines that differ in what files hold. -/
theorem run {script : Script ε α} (blind : script.Blind) {first second : Machine}
    (alike : first.Alike second) :
    (script.run first).1 = (script.run second).1 ∧
      (script.run first).2.Alike (script.run second).2 := by
  -- after each step the machines are alike again, and the answer to it was the same
  induction blind generalizing first second with
  | done value => exact ⟨rfl, alike⟩
  | fail error => exact ⟨rfl, alike⟩
  | abort => exact ⟨rfl, alike⟩
  | write text onFailure _ ih =>
      simp only [Script.run, alike.output]
      split
      · exact ih ⟨alike.files, alike.input, rfl⟩
      · exact ⟨rfl, alike.files, alike.input, rfl⟩
  | readLine onFailure _ ih =>
      simp only [Script.run, alike.input]
      split
      · exact ih _ ⟨alike.files, rfl, alike.output⟩
      · exact ⟨rfl, alike.files, rfl, alike.output⟩
  | hasPath path _ ih =>
      simp only [Script.run, alike.files.hasPath]
      exact ih _ alike
  | makeDirectories path _ ih =>
      obtain ⟨files, made⟩ := alike.files.makeDirectories path
      simp only [Script.run, made]
      exact ih _ ⟨files, alike.input, alike.output⟩
  | writeFile path text _ ih =>
      have stored := alike.files.writeFile? path (Text.encode text)
      simp only [Script.run]
      generalize first.files.writeFile? path (Text.encode text) = after at stored ⊢
      generalize second.files.writeFile? path (Text.encode text) = after' at stored ⊢
      cases stored with
      | none => exact ih false alike
      | some files => exact ih true ⟨files, alike.input, alike.output⟩

end Blind

end Script

end PolishCalc

import PolishCalc.Host.Path
import PolishCalc.Text.Utf8

/-!
# File trees

Files and directories by location, where a location is the list of names from the root. A path text
is followed from the working directory or the root; each component must stand in a directory. There
are no symbolic links, so `..` leads to the location without its last name.

`get?_put` and `get?_put_of_ne` say what a change does; reading, writing and making directories are
defined by these two and by following a path.
-/

namespace PolishCalc

open Text (Bytes)

/-- Names from the root downwards. -/
abbrev Location := List String

/-- What is at a location. -/
inductive Entry where
  | file (content : Bytes)
  | directory
  deriving DecidableEq

/-- The reasons for which the text of a file cannot be had. -/
inductive ReadFault where
  | notFound
  | isDirectory
  | notText
  /-- A reason that only the host knows. -/
  | other (reason : String)
  deriving DecidableEq, Repr

/-- The text that is shown to the user. -/
def ReadFault.message : ReadFault → String
  | notFound => "No such file or directory (os error 2)"
  | isDirectory => "Is a directory (os error 21)"
  | notText => "stream did not contain valid UTF-8"
  | other reason => reason

/-- Files and directories, and the directory where relative paths start. The root is a directory
whatever `contents` says. -/
structure FileTree where
  contents : Location → Option Entry := fun _ => none
  workingDirectory : Location := []

namespace FileTree

/-- What is at a location. -/
def get? (files : FileTree) (location : Location) : Option Entry :=
  if location = [] then some .directory else files.contents location

/-- Changes what is at a location. -/
def put (files : FileTree) (location : Location) (entry : Option Entry) : FileTree :=
  { files with contents := fun l => if l = location then entry else files.contents l }

theorem get?_put {files : FileTree} {location : Location} (entry : Option Entry)
    (below : location ≠ []) : (files.put location entry).get? location = entry := by
  simp [get?, put, below]

theorem get?_put_of_ne {files : FileTree} {location other : Location} (entry : Option Entry)
    (differs : other ≠ location) :
    (files.put location entry).get? other = files.get? other := by
  simp [get?, put, differs]

/-- Whether there is a directory at a location. -/
def isDirectory (files : FileTree) (location : Location) : Bool :=
  files.get? location == some .directory

/-- The longest name of a file or directory, in bytes. -/
def maxNameSize : Nat := 255

/-- The longest path, in bytes. -/
def maxPathSize : Nat := 4095

/-- Whether a name can stand in a directory. -/
def fitsName (name : List Char) : Bool :=
  (String.ofList name).utf8ByteSize ≤ maxNameSize

/-- Whether a path can lead anywhere. -/
def fitsPath (path : String) : Bool :=
  !path.isEmpty && !path.toList.contains '\x00' && path.utf8ByteSize ≤ maxPathSize

/-- The components of a path and the location where it starts. -/
def start (files : FileTree) (path : String) : Location × List (List Char) :=
  (if Path.isAbsolute path then [] else files.workingDirectory, Path.split path.toList)

/-- Follows components from a location. What the last one leads to need not exist. -/
def follow (files : FileTree) : Location → List (List Char) → Option Location
  | here, [] => some here
  | here, name :: rest =>
    -- also an empty component, as after a slash at the end, needs a directory before it
    if !files.isDirectory here then none
    else if Path.isIdle name then files.follow here rest
    else if name = ['.', '.'] then files.follow here.dropLast rest
    else if fitsName name then files.follow (here ++ [String.ofList name]) rest
    else none

/-- The location that a path leads to. -/
def locate (files : FileTree) (path : String) : Option Location :=
  if fitsPath path then
    let (here, components) := files.start path
    files.follow here components
  else
    none

/-- What a path leads to. -/
def find? (files : FileTree) (path : String) : Option Entry :=
  (files.locate path).bind files.get?

/-- Whether a path leads to a file or a directory. -/
def hasPath (files : FileTree) (path : String) : Bool :=
  (files.find? path).isSome

/-- The text of a file. -/
def readText (files : FileTree) (path : String) : Except ReadFault String :=
  match files.find? path with
  | none => .error .notFound
  | some .directory => .error .isDirectory
  | some (.file content) =>
    match Text.decode? content with
    | some text => .ok text
    | none => .error .notText

/-- Gives a file a new content, and makes it if its directory exists; `none` if that fails. -/
def writeFile? (files : FileTree) (path : String) (content : Bytes) : Option FileTree := do
  let location ← files.locate path
  if files.isDirectory location then none
  return files.put location (some (.file content))

/-- Removes a file; `none` if there is no file. -/
def removeFile? (files : FileTree) (path : String) : Option FileTree := do
  let location ← files.locate path
  match files.get? location with
  | some (.file _) => some (files.put location none)
  | _ => none

/-- Makes the directories that components lead through, where they are missing. The answer says
whether all of them are directories now; those before a failure stay. -/
def makeBelow (files : FileTree) : Location → List (List Char) → FileTree × Bool
  | _, [] => (files, true)
  | here, name :: rest =>
    if Path.isIdle name then files.makeBelow here rest
    else if name = ['.', '.'] then files.makeBelow here.dropLast rest
    else
      let next := here ++ [String.ofList name]
      match files.get? next with
      | some .directory => files.makeBelow next rest
      | some (.file _) => (files, false)
      | none =>
        if fitsName name then (files.put next (some .directory)).makeBelow next rest
        else (files, false)

/-- Makes a directory with all directories above it. The empty path needs none. -/
def makeDirectories (files : FileTree) (path : String) : FileTree × Bool :=
  if path.isEmpty then
    (files, true)
  else if fitsPath path then
    let (here, components) := files.start path
    files.makeBelow here components
  else
    (files, false)

end FileTree

end PolishCalc

/-!
# Path texts

A path is a text whose components are separated by slashes. `Path.split` and `Path.join` take such a
text apart and put it together, and `Path.parent?` is the text of the path above it: the last proper
component is dropped, with the slashes and single dots around it. A path that starts with a slash is
absolute, and one that starts with a dot component keeps it.
-/

namespace PolishCalc.Path

/-- The components of a path, with the empty ones. -/
def split : List Char → List (List Char)
  | [] => [[]]
  | c :: rest =>
    if c = '/' then
      [] :: split rest
    else
      match split rest with
      | [] => [[c]]
      | first :: others => (c :: first) :: others

/-- The path with the given components. -/
def join : List (List Char) → List Char
  | [] => []
  | [last] => last
  | first :: others => first ++ '/' :: join others

theorem split_ne_nil (path : List Char) : split path ≠ [] := by
  cases path with
  | nil => simp [split]
  | cons c rest =>
    unfold split
    split
    · simp
    · split <;> simp

theorem join_split (path : List Char) : join (split path) = path := by
  induction path with
  | nil => rfl
  | cons c rest ih =>
    unfold split
    split
    · next slash =>
      subst slash
      cases parts : split rest with
      | nil => exact absurd parts (split_ne_nil rest)
      | cons first others =>
        rw [parts] at ih
        simp [join, ih]
    · cases parts : split rest with
      | nil => exact absurd parts (split_ne_nil rest)
      | cons first others =>
        rw [parts] at ih
        cases others <;> simp_all [join]

/-- Whether a path does not depend on the working directory. -/
def isAbsolute (path : String) : Bool :=
  path.toList.head? == some '/'

/-- Whether a component leads to the place where it stands. -/
def isIdle (component : List Char) : Bool :=
  component.isEmpty || component == ['.']

/-- The start of a path that is never dropped: a slash, or a dot component. -/
def anchor : List Char → List Char
  | '/' :: _ => ['/']
  | ['.'] => ['.']
  | '.' :: '/' :: _ => ['.']
  | _ => []

/-- The path above a path; `none` for the root and for the empty path. -/
def parent? (path : String) : Option String :=
  let start := anchor path.toList
  let proper := (split (path.toList.drop start.length)).reverse.dropWhile isIdle
  match proper with
  | [] => if start = ['.'] then some "" else none
  | _ :: above => some (String.ofList (start ++ join (above.dropWhile isIdle).reverse))

/-- A relative path below a directory. -/
def below (directory name : String) : String :=
  if directory.isEmpty || directory.toList.getLast? == some '/' then
    directory ++ name
  else
    directory ++ "/" ++ name

end PolishCalc.Path

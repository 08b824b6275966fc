import TestFlow.Source.Language

/-! # Paths

A path is a list of names, below the root or below wherever one stands. Empty names and single dots in
its text say nothing and are left out; double dots are kept, for what they mean depends on the files.
-/

namespace TestFlow

/-- A path: whether it starts at the root, and its names. -/
structure Path where
  isRooted : Bool
  names : List String
deriving DecidableEq, Repr, Inhabited

namespace Path

/-- The names in a text, between its slashes. -/
def namesOf (text : String) : List String :=
  ((text.toList.splitOn '/').map String.ofList).filter fun name => name ≠ "" && name ≠ "."

def ofText (text : String) : Path :=
  ⟨text.toList.head? = some '/', namesOf text⟩

/-- A path below the root. -/
def rooted (names : List String) : Path :=
  ⟨true, names⟩

def text (path : Path) : String :=
  let joined := "/".intercalate path.names
  if path.isRooted then "/" ++ joined else if joined = "" then "." else joined

/-- Whether a name in the path holds a NUL, which no path can have on a disk. -/
def holdsNul (path : Path) : Bool :=
  path.names.any (·.toList.contains '\x00')

/-- A path as seen from another one: below it, unless it starts at the root itself. -/
def below (base path : Path) : Path :=
  if path.isRooted then path else { base with names := base.names ++ path.names }

/-- The path without its last name. -/
def parent (path : Path) : Path :=
  { path with names := path.names.dropLast }

/-- What is behind the last dot of a name, with the dot. A name that starts or ends with its last dot has
none. -/
def suffixOf (name : List Char) : List Char :=
  let reversed := name.reverse
  let ending := reversed.takeWhile (· ≠ '.')
  let stem := (reversed.dropWhile (· ≠ '.')).drop 1
  if ending.isEmpty || stem.isEmpty then [] else '.' :: ending.reverse

/-- The suffix of the last name, in small letters. -/
def suffix (path : Path) : String :=
  match path.names.getLast? with
  | none => ""
  | some name => .ofList ((suffixOf name.toList).map Char.toLower)

/-- The language that a test file's suffix tells; JavaScript if it tells none. -/
def language (path : Path) : Source.Language :=
  match path.suffix with
  | ".ts" | ".mts" | ".cts" => .typescript
  | ".tsx" => .tsx
  | _ => .javascript

/-- The names one comes to by following names and double dots, as long as nothing is in the way. -/
def collapse (names : List String) : List String :=
  names.foldl (fun sofar name => if name = ".." then sofar.dropLast else sofar ++ [name]) []

end Path

end TestFlow

import TestFlow.Failure
import TestFlow.Path

/-! # Files and directories

A file system maps locations, that is lists of names from the root down, to directories and files. Paths are
followed name by name: each name but the last has to be a directory, and double dots lead to the directory
above. A system takes no names that are too long for it or hold what has no bytes. Work of several steps that
fails leaves the files as its last step left them: nothing is undone.
-/

namespace TestFlow

/-- A location in a file system: the names from the root down, without dots. -/
abbrev Location :=
  List String

/-- What can be at a location. -/
inductive Entry where
  | directory
  | file (content : ByteArray)
deriving Inhabited

/-- Files are equal if their bytes are. -/
instance : DecidableEq Entry
  | .directory, .directory => isTrue rfl
  | .directory, .file _ => isFalse nofun
  | .file _, .directory => isFalse nofun
  | .file content, .file other =>
    decidable_of_iff (content.data = other.data) (by simp [ByteArray.ext_iff])

/-- What a system takes for names: how many bytes a name and a path can have, and what stands for surrogates in
them and in texts. -/
structure Naming where
  surrogates : Text.Surrogates := []
  longestName : Nat := 255
  longestPath : Nat := 4095
deriving DecidableEq, Repr, Inhabited

/-- The number of bytes of a path from the root down, where a slash leads each name. -/
def Naming.pathSize (naming : Naming) (names : List String) : Nat :=
  names.foldr (fun name size => 1 + naming.surrogates.nameSize name + size) 0

/-- Why a system cannot even be asked for a path: a name in it holds a character without bytes, or a NUL, for which
the failure is given. -/
def Naming.refusal? (naming : Naming) (onNul : Failure) (path : Path) : Option Failure :=
  let surrogates := naming.surrogates
  if path.names.any (·.toList.any surrogates.isByteless) then
    some (.unencodable (surrogates.trouble surrogates.isByteless path.text))
  else if path.holdsNul then some onNul
  else none

/-- Directories and files at their locations; the root is always a directory. -/
structure FileSystem where
  entries : List (Location × Entry)
  naming : Naming := {}
deriving DecidableEq, Inhabited

namespace FileSystem

/-- What is at a location. -/
def lookup? (files : FileSystem) (location : Location) : Option Entry :=
  if location = [] then some .directory else files.entries.lookup location

/-- Put an entry at a location, instead of what is there. -/
def put (files : FileSystem) (location : Location) (entry : Entry) : FileSystem :=
  { files with entries := (location, entry) :: files.entries.filter (·.1 ≠ location) }

@[simp] theorem put_naming (files : FileSystem) (location : Location) (entry : Entry) :
    (files.put location entry).naming = files.naming :=
  rfl

@[simp] theorem lookup?_root (files : FileSystem) : files.lookup? [] = some .directory :=
  rfl

theorem lookup_filter_ne {entries : List (Location × Entry)} {location other : Location}
    (elsewhere : other ≠ location) :
    (entries.filter (·.1 ≠ location)).lookup other = entries.lookup other := by
  induction entries with
  | nil => rfl
  | cons head tail ih =>
    by_cases same : head.1 = location
    · have passed : (other == head.1) = false := by simpa [same] using elsewhere
      rw [List.filter_cons_of_neg (by simpa using same), ih, List.lookup_cons, passed]
    · rw [List.filter_cons_of_pos (by simpa using same), List.lookup_cons, List.lookup_cons, ih]

/-- Nothing but the entry at the location changes. -/
theorem lookup?_put {files : FileSystem} {location : Location} {entry : Entry} (below : location ≠ [])
    (other : Location) :
    (files.put location entry).lookup? other = if other = location then some entry else files.lookup? other := by
  by_cases same : other = location
  · rw [same, if_pos rfl, lookup?, if_neg below, put, List.lookup_cons_self]
  · have passed : (other == location) = false := by simpa using same
    rw [if_neg same, lookup?, lookup?, put, List.lookup_cons, passed]
    simp only [lookup_filter_ne same]

/-- Why a path leads nowhere. -/
inductive Obstacle where
  | missing
  | notADirectory
  | tooLong
deriving DecidableEq, Repr, Inhabited

/-- Follow names from a location. There need not be anything at the location they lead to. -/
def follow (files : FileSystem) (location : Location) : List String → Except Obstacle Location
  | [] => .ok location
  | name :: rest =>
    match files.lookup? location with
    | none => .error .missing
    | some (.file _) => .error .notADirectory
    | some .directory =>
      if files.naming.longestName < files.naming.surrogates.nameSize name then .error .tooLong
      else files.follow (if name = ".." then location.dropLast else location ++ [name]) rest

/-- The location a path leads to. -/
def locate (files : FileSystem) (path : Path) : Except Obstacle Location :=
  if files.naming.longestPath < files.naming.pathSize path.names then .error .tooLong
  else files.follow [] path.names

/-- What a path leads to. -/
def find? (files : FileSystem) (path : Path) : Option Entry :=
  match files.locate path with
  | .ok location => files.lookup? location
  | .error _ => none

/-- The content of the file a path leads to. -/
def read? (files : FileSystem) (path : Path) : Option ByteArray :=
  match files.find? path with
  | some (.file content) => some content
  | _ => none

/-- What came of making one directory. -/
inductive Making where
  | made (files : FileSystem)
  | parentMissing
  | refused (failure : Failure)

/-- Make the directory a path names. One that is there already counts as made. -/
def makeDirectory (files : FileSystem) (path : Path) : Making :=
  match files.naming.refusal? (.nulInPath "mkdir") path with
  | some failure => .refused failure
  | none =>
    match files.locate path with
    | .error .missing => .parentMissing
    | .error .notADirectory => .refused (.notADirectory path.text)
    | .error .tooLong => .refused (.nameTooLong path.text)
    | .ok location =>
      match files.lookup? location with
      | none => .made (files.put location .directory)
      | some .directory => .made files
      | some (.file _) => .refused (.fileInTheWay path.text)

/-- What came of work on files: why it stopped, if it did, and the files as it left them. -/
structure Change where
  trouble : Option Failure
  files : FileSystem

namespace Change

/-- The work is done. -/
def done (files : FileSystem) : Change :=
  ⟨none, files⟩

/-- The work has stopped. -/
def stopped (failure : Failure) (files : FileSystem) : Change :=
  ⟨some failure, files⟩

/-- Go on from the files that the work so far has left, unless it has stopped. -/
def andThen (change : Change) (next : FileSystem → Change) : Change :=
  match change.trouble with
  | none => next change.files
  | some _ => change

@[simp] theorem done_andThen (files : FileSystem) (next : FileSystem → Change) :
    (done files).andThen next = next files :=
  rfl

@[simp] theorem stopped_andThen (failure : Failure) (files : FileSystem) (next : FileSystem → Change) :
    (stopped failure files).andThen next = stopped failure files :=
  rfl

end Change

/-- Make the directory of the given names, last one first, and those above it as far as they are missing. -/
def makeDirectories (files : FileSystem) : List String → Change
  | [] => .done files
  | name :: above =>
    let path := Path.rooted (name :: above).reverse
    match files.makeDirectory path with
    | .made files => .done files
    | .refused failure => .stopped failure files
    | .parentMissing =>
      (files.makeDirectories above).andThen fun files =>
        match files.makeDirectory path with
        | .made files => .done files
        | .refused failure => .stopped failure files
        | .parentMissing => .stopped (.notFound path.text) files

/-- Write a file, in a directory that has to be there. -/
def writeFile (files : FileSystem) (path : Path) (content : ByteArray) : Change :=
  match files.naming.refusal? .nulInFileName path with
  | some failure => .stopped failure files
  | none =>
    match files.locate path with
    | .error .missing => .stopped (.notFound path.text) files
    | .error .notADirectory => .stopped (.notADirectory path.text) files
    | .error .tooLong => .stopped (.nameTooLong path.text) files
    | .ok location =>
      if files.lookup? location = some .directory then .stopped (.directoryInTheWay path.text) files
      else .done (files.put location (.file content))

/-- Write a text to a file. The file is emptied first, and stays empty if the text has no bytes. -/
def writeText (files : FileSystem) (path : Path) (text : String) : Change :=
  (files.writeFile path .empty).andThen fun files =>
    match files.naming.surrogates.encode text with
    | .error trouble => .stopped (.unencodable trouble) files
    | .ok content => files.writeFile path content

/-- Write a text to a file and make the directories above it as far as they are missing. -/
def writeWithin (files : FileSystem) (path : Path) (text : String) : Change :=
  (files.makeDirectories path.parent.names.reverse).andThen (·.writeText path text)

end FileSystem

end TestFlow

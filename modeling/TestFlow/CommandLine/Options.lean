import TestFlow.FileSystem
import TestFlow.Settings
import TestFlow.Text.Digit
import TestFlow.Text.Part

/-! # Options

Arguments are first told apart: an option by its name, by a beginning of a long name that no other has, or
by either with a value behind an equals sign; everything else is a plain argument, and so is everything
behind two dashes. An ambiguous beginning stops at once. Then the options take effect in order, so that
the first one that asks for help or cannot take effect decides. A missing option comes after that, and
arguments that nobody asked for come last.
-/

namespace TestFlow.CommandLine

/-- What a run knows about the user and the system: the settings, where it stands (the directory may be gone), the
homes of users (the user's own home goes by the empty name), what the system takes for names, and where names from
the root down lead when symbolic links are followed. If these lead in a circle, it is the place where the system
gives up. -/
structure Environment where
  settings : Settings
  workingDirectory : Option (List String)
  home? : String → Option String
  naming : Naming := {}
  follow : List String → Except (List String) (List String) := fun names => .ok (Path.collapse names)

/-- Why the text of a path is no path. -/
inductive PathProblem where
  | refused (failure : Failure)
  | unknownHome
  | noWorkingDirectory
  | linkLoop (place : Path)
deriving DecidableEq, Repr, Inhabited

/-- The failure that a path which is none comes to, where nobody sees to it. -/
def PathProblem.failure : PathProblem → Failure
  | .refused failure => failure
  | .unknownHome => .unknownHome
  | .noWorkingDirectory => .noWorkingDirectory
  | .linkLoop place => .linkLoop place.text

/-- The place that the text of a home names; an empty one is the root. -/
def homePath (home : String) : Path :=
  if home = "" then .rooted [] else .ofText home

/-- Why the system cannot be asked for a path. -/
def Environment.refusal? (environment : Environment) (path : Path) : Option Failure :=
  environment.naming.refusal? (.nulInPath "lstat") path

/-- A path below the home of the user that a leading `~` names. A name that no user can have stays, to be refused with
the path. -/
def Environment.expandHome (environment : Environment) (path : Path) : Except PathProblem Path :=
  match path.isRooted, path.names with
  | false, first :: rest =>
    match first.toList with
    | '~' :: user =>
      if (environment.refusal? ⟨false, [first]⟩).isSome then .ok path
      else
        match environment.home? (.ofList user) with
        | none => .error .unknownHome
        | some home =>
          if home.toList.head? = some '~' then .error .unknownHome
          else .ok ((homePath home).below ⟨false, rest⟩)
    | _ => .ok path
  | _, _ => .ok path

/-- The names of a path from the root down. -/
def Environment.fromRoot (environment : Environment) (path : Path) : Except PathProblem (List String) :=
  if path.isRooted then .ok path.names
  else
    match environment.workingDirectory with
    | none => .error .noWorkingDirectory
    | some directory => .ok (directory ++ path.names)

/-- The place a text names, from the root down. -/
def Environment.resolve (environment : Environment) (text : String) : Except PathProblem Path := do
  let path ← environment.expandHome (.ofText text)
  match environment.refusal? (.ofText text) with
  | some failure => throw (.refused failure)
  | none =>
    let names ← environment.fromRoot path
    match environment.follow names with
    | .ok place => return .rooted place
    | .error place => throw (.linkLoop (.rooted place))

/-- The options there are. -/
inductive Choice where
  | help
  | file
  | out
  | dedupScope
  | quiet
  | verbose
  | debug
deriving DecidableEq, Repr, Inhabited

/-- The names of the options, in the order they are listed. -/
def choiceNames : List (String × Choice) :=
  [("-h", .help), ("--help", .help), ("--file", .file), ("--out", .out),
    ("--dedup-scope", .dedupScope), ("--quiet", .quiet), ("--verbose", .verbose), ("--debug", .debug)]

/-- An option as complaints name it, by all its names. -/
def Choice.title (choice : Choice) : String :=
  "/".intercalate ((choiceNames.filter (·.2 = choice)).map (·.1))

/-- Whether a value belongs to the option. -/
def Choice.takesValue : Choice → Bool
  | .file | .out | .dedupScope => true
  | _ => false

/-- What a run is asked to do. -/
structure Request where
  file : Path
  out : Option Path
  dedupScope : Option String
  isQuiet : Bool
  isVerbose : Bool
  isDebug : Bool
deriving DecidableEq, Repr, Inhabited

/-- Why arguments ask for no run. -/
inductive Stop where
  | help
  | misuse (message : String)
  | failed (failure : Failure)
deriving DecidableEq, Repr, Inhabited

/-- A complaint about an option. -/
def Choice.misuse (choice : Choice) (message : String) : Stop :=
  .misuse ("argument " ++ choice.title ++ ": " ++ message)

/-- A value that an option cannot have. -/
def Choice.ignores (choice : Choice) (value : String) : Stop :=
  choice.misuse ("ignored explicit argument " ++ Text.quoted value)

/-- A value in the same argument as its option: what stands behind the equals sign of a long or a short
option, or what is joined to a short one. -/
inductive Attached where
  | nothing
  | value (text : String)
  | joined (text : List Char)
deriving DecidableEq, Repr, Inhabited

/-- What an argument turns out to be. -/
inductive Word where
  | plain (text : String)
  | dashes
  | unknown (text : String)
  | option (choice : Choice) (attached : Attached)
deriving DecidableEq, Repr, Inhabited

/-- A text up to its first equals sign, and what stands behind it. -/
def splitAtEquals (text : List Char) : List Char × Option (List Char) :=
  let front := text.takeWhile (· ≠ '=')
  match text.drop front.length with
  | [] => (front, none)
  | _ :: value => (front, some value)

def attachedValue (value : Option (List Char)) : Attached :=
  match value with
  | none => .nothing
  | some text => .value (.ofList text)

/-- A text without a line end at its end. -/
def dropLineEnd (text : List Char) : List Char :=
  if text.getLast? = some '\n' then text.dropLast else text

/-- Whether a text is a number below zero, as plain arguments can be: with the digits of any scripts, a point
maybe, and a line end behind it maybe. -/
def isNegativeNumber : List Char → Bool
  | '-' :: text =>
    let number := dropLineEnd text
    let whole := number.takeWhile Text.isDecimal
    match number.drop whole.length with
    | [] => !whole.isEmpty
    | '.' :: fraction => !fraction.isEmpty && fraction.all Text.isDecimal
    | _ => false
  | _ => false

/-- An argument that starts with a dash but names no option. -/
def undashed (argument : String) : Word :=
  if isNegativeNumber argument.toList || argument.toList.contains ' ' then .plain argument
  else .unknown argument

/-- The long options that an argument may mean, by their names. -/
def candidates (beginning : List Char) : List (String × Choice) :=
  choiceNames.filter fun (name, _) => beginning.isPrefixOf name.toList

/-- An argument with two dashes: a long option by its name or by a beginning of it. -/
def readLong (argument : String) : Except Stop Word :=
  let (front, value) := splitAtEquals argument.toList
  match choiceNames.lookup (.ofList front) with
  | some choice => .ok (.option choice (attachedValue value))
  | none =>
    match candidates front with
    | [] => .ok (undashed argument)
    | [(_, choice)] => .ok (.option choice (attachedValue value))
    | several =>
      .error (.misuse ("ambiguous option: " ++ argument ++ " could match " ++
        ", ".intercalate (several.map (·.1))))

/-- An argument with one dash: the short option, maybe with more joined to it. -/
def readShort (argument : String) : Word :=
  match argument.toList with
  | ['-', 'h'] => .option .help .nothing
  | '-' :: 'h' :: '=' :: value => .option .help (.value (.ofList value))
  | '-' :: 'h' :: rest => .option .help (.joined rest)
  | _ => undashed argument

/-- What an argument turns out to be. -/
def readWord (argument : String) : Except Stop Word :=
  match argument.toList with
  | '-' :: '-' :: _ => readLong argument
  | '-' :: _ :: _ => .ok (readShort argument)
  | _ => .ok (.plain argument)

/-- What all arguments turn out to be. -/
def readWords : List String → Except Stop (List Word)
  | [] => .ok []
  | "--" :: rest => .ok (.dashes :: rest.map .plain)
  | argument :: rest => do
    let word ← readWord argument
    return word :: (← readWords rest)

/-- What is asked so far. -/
structure Draft where
  file : Option Path := none
  out : Option Path := none
  dedupScope : Option String := none
  isQuiet : Bool := false
  isVerbose : Bool := false
  isDebug : Bool := false
deriving DecidableEq, Repr, Inhabited

/-- The path that is an option's value. -/
def Environment.pathValue (environment : Environment) (choice : Choice) (value : String) :
    Except Stop Path :=
  match environment.resolve value with
  | .ok path => .ok path
  | .error (.refused _) => .error (choice.misuse ("invalid _path value: " ++ Text.quoted value))
  | .error problem => .error (.failed problem.failure)

/-- Let an option with a value take effect. -/
def Draft.setValue (environment : Environment) (draft : Draft) (choice : Choice) (value : String) :
    Except Stop Draft :=
  match choice with
  | .file => do return { draft with file := some (← environment.pathValue choice value) }
  | .out => do return { draft with out := some (← environment.pathValue choice value) }
  | _ =>
    if value = "test" || value = "run" then .ok { draft with dedupScope := some value }
    else .error (choice.misuse
      ("invalid choice: " ++ Text.quoted value ++ " (choose from 'test', 'run')"))

/-- Let an option without a value take effect. -/
def Draft.setFlag (draft : Draft) (choice : Choice) : Except Stop Draft :=
  match choice with
  | .quiet => .ok { draft with isQuiet := true }
  | .verbose => .ok { draft with isVerbose := true }
  | .debug => .ok { draft with isDebug := true }
  | _ => .error .help

/-- What becomes of characters joined to the short option for help: more of the same, or a value, which
help ignores; others are left for later, and help comes first. -/
def joinedToHelp : List Char → Stop
  | [] => .help
  | 'h' :: '=' :: value => Choice.help.ignores (.ofList value)
  | 'h' :: rest => joinedToHelp rest
  | '-' :: rest => Choice.help.ignores (.ofList ('-' :: rest))
  | _ => .help

/-- Let the options take effect in order; the plain and unknown arguments are left over. -/
def Draft.take (environment : Environment) (draft : Draft) :
    List Word → Except Stop (Draft × List String)
  | [] => .ok (draft, [])
  | .plain text :: rest => do
    let (draft, extra) ← draft.take environment rest
    return (draft, text :: extra)
  | .dashes :: rest => do
    let (draft, extra) ← draft.take environment rest
    return (draft, "--" :: extra)
  | .unknown text :: rest => do
    let (draft, extra) ← draft.take environment rest
    return (draft, text :: extra)
  | .option choice .nothing :: rest =>
    if choice.takesValue then
      match rest with
      | .plain value :: rest => do
        (← draft.setValue environment choice value).take environment rest
      | _ => .error (choice.misuse "expected one argument")
    else do
      (← draft.setFlag choice).take environment rest
  | .option choice (.value value) :: rest =>
    if choice.takesValue then do
      (← draft.setValue environment choice value).take environment rest
    else .error (choice.ignores value)
  | .option _ (.joined text) :: _ => .error (joinedToHelp text)

/-- What the arguments ask for. -/
def readRequest (environment : Environment) (arguments : List String) : Except Stop Request := do
  let words ← readWords arguments
  let (draft, extra) ← ({} : Draft).take environment words
  match draft.file with
  | none => throw (.misuse "the following arguments are required: --file")
  | some file =>
    if !extra.isEmpty then
      throw (.misuse ("unrecognized arguments: " ++ " ".intercalate extra))
    return { file, out := draft.out, dedupScope := draft.dedupScope, isQuiet := draft.isQuiet
             isVerbose := draft.isVerbose, isDebug := draft.isDebug }

end TestFlow.CommandLine

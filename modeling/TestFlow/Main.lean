import TestFlow.CommandLine.Markup
import TestFlow.CommandLine.Run
import TestFlow.Source.Program

/-! # The program

The entries that a request is about are read from the disk, the run is worked out on them, and what it has
made or changed is put back before anything is shown. The journal goes with the complaints.
-/

namespace TestFlow.CommandLine

/-- The locations from the root down to one. -/
def locationsTo (location : Location) : List Location :=
  (List.range (location.length + 1)).map location.take

/-- The locations that a run looks at: the way to the test file and the way to the diagram. -/
def concerned (environment : Environment) (arguments : List String) : List Location :=
  match readRequest environment arguments with
  | .error _ => []
  | .ok request =>
    let out := (outPath environment request).toOption
    (request.file :: out.toList).flatMap fun path => locationsTo path.names

/-- The texts that may turn out to be paths: the arguments, the values in them, and the output path that is set. -/
def pathTexts (settings : Settings) (arguments : List String) : List String :=
  let values := arguments.filterMap fun argument => (splitAtEquals argument.toList).2.map String.ofList
  settings.outputPath :: arguments ++ values

/-- Where names lead on the disk. What is not there yet comes below the last thing that is. -/
def followOnDisk (names : List String) : IO (Except (List String) (List String)) := do
  let tooManyLinks : UInt32 := 40
  for count in (List.range (names.length + 1)).reverse do
    try
      let reached ← IO.FS.realPath (Path.rooted (names.take count)).text
      return .ok (Path.collapse (Path.namesOf reached.toString ++ names.drop count))
    catch
      | .invalidArgument _ code _ => if code = tooManyLinks then return .error (Path.collapse names)
      | _ => pure ()
  return .ok (Path.collapse names)

/-- The surroundings with the links on the disk, as far as texts may lead along them. -/
def Environment.withLinks (environment : Environment) (texts : List String) : IO Environment := do
  let paths := texts.filterMap fun text => (environment.expandHome (.ofText text)).toOption
  let table ← (paths.filterMap fun path => (environment.fromRoot path).toOption).mapM fun names => do
    return (names, ← followOnDisk names)
  return { environment with follow := fun names => (table.lookup names).getD (.ok (Path.collapse names)) }

/-- The home of an account, by a table of accounts with seven columns. -/
def accountHome? (accounts user : String) : Option String :=
  (accounts.splitOn "\n").findSome? fun line =>
    match line.splitOn ":" with
    | [name, _, _, _, _, home, _] => if name = user then some home else none
    | _ => none

/-- What is known about the user. -/
def readEnvironment : IO Environment := do
  let known ← Settings.sourceNames.filterMapM fun name => do
    return (← IO.getEnv name).map (name, ·)
  let ownHome ← IO.getEnv "HOME"
  let accounts ← try IO.FS.readFile "/etc/passwd" catch _ => pure ""
  let directory ← try some <$> IO.currentDir catch _ => pure none
  return {
    settings := Settings.ofEnvironment (known.lookup ·)
    workingDirectory := directory.map fun path => Path.namesOf path.toString
    home? := fun user => if user = "" then ownHome else accountHome? accounts user }

/-- What is at a location on the disk. -/
def loadEntry (location : Location) : IO (Option Entry) := do
  try
    let found ← IO.FS.realPath (Path.rooted location).text
    if ← found.isDir then return some .directory
    return some (.file (← IO.FS.readBinFile found))
  catch _ => return none

/-- What is at some locations on the disk. -/
def loadFiles (locations : List Location) : IO FileSystem := do
  let entries ← locations.filterMapM fun location => do
    return (← loadEntry location).map (location, ·)
  return { entries }

/-- Put what a run has made or changed on the disk, oldest first. -/
def saveFiles (before after : FileSystem) : IO Unit :=
  after.entries.reverse.forM fun (location, entry) => do
    let path := (Path.rooted location).text
    if before.lookup? location ≠ some entry then
      match entry with
      | .directory => IO.FS.createDir path
      | .file content => IO.FS.writeBinFile path content

end TestFlow.CommandLine

open TestFlow CommandLine in
/-- Run the program on the arguments it is called with. -/
def main (arguments : List String) : IO UInt32 := do
  let known ← readEnvironment
  let environment ← known.withLinks (pathTexts known.settings arguments)
  let before ← loadFiles (concerned environment arguments)
  let ran := run Source.parse Markup.console environment before false arguments
  saveFiles before ran.files
  (← IO.getStdout).putStr ran.output
  let complaints ← IO.getStderr
  complaints.putStr ran.complaints
  for note in journalAt ran.level ran.journal do
    complaints.putStrLn (note.level.name ++ " " ++ note.message)
  match ran.ending with
  | .refused code | .exit code => return code.toUInt32
  | .raised failure =>
    complaints.putStrLn failure.message
    return 1

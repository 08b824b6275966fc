import TestFlow.CommandLine.Console
import TestFlow.CommandLine.Options
import TestFlow.CommandLine.Usage
import TestFlow.FileFlow

/-! # A run of the program

What the program says and does for given arguments, files and surroundings, with a parser and on a console that are
given too. The progress lines before and after the work are markup; they hold the names of files as they are, so a
name can spoil a line. A failure is shown, with its tags made plain, and gives the exit code; a run that debugs hands
it on as well.
-/

namespace TestFlow.CommandLine

/-- How a run ends. `refused` is an end before any work, by help or a complaint. -/
inductive Ending where
  | refused (code : Nat)
  | exit (code : Nat)
  | raised (failure : Failure)
deriving DecidableEq, Repr, Inhabited

/-- All a run says and does. -/
structure Run where
  output : String := ""
  complaints : String := ""
  ending : Ending
  level : Level := .info
  journal : List Note := []
  files : FileSystem

section

variable (parser : Parser) (console : Console)

/-- Lines of markup as they are shown, up to the first that is spoilt. -/
def showLines : List String → String × Option Failure
  | [] => ("", none)
  | line :: rest =>
    match console.render line with
    | .error problem => ("", some (.unshown problem))
    | .ok shown =>
      let (later, trouble) := showLines rest
      (shown ++ "\n" ++ later, trouble)

/-- A line that tells something under a title. -/
def titled (look title text : String) : String :=
  styled look title ++ " " ++ text

/-- The lines before the work. -/
def openingLines (request : Request) (settings : Settings) (out : Path) : List String :=
  ["\n" ++ styled "bold cyan" ("═══ " ++ programName ++ ": Generate Flow Diagram ═══") ++ "\n",
    titled "cyan" "Test file:" request.file.text,
    titled "cyan" "Dedup scope:" (request.dedupScope.getD settings.dedupScope),
    titled "cyan" "Output:" out.text,
    ""]

/-- The lines after the work. -/
def closingLines (graph : Graph) (out : Path) : List String :=
  ["\n" ++ styled "bold green" "✓ Flow diagram generated",
    titled "green" "  Tests:" (toString graph.tests),
    titled "green" "  Nodes:" (toString graph.nodes),
    titled "green" "  Edges:" (toString graph.edges),
    titled "green" "  Output:" out.text,
    ""]

/-- The line that says the user stopped the work. -/
def interruptionLine : String :=
  "\n" ++ styled "yellow" "Interrupted by user"

/-- The line that shows a failure. -/
def failureLine (failure : Failure) : String :=
  "\n" ++ titled "bold red" "Error:" (console.escape failure.message)

/-- Show lines and go on; a line that is spoilt is a failure of its own. -/
def Run.showing (run : Run) (lines : List String) (spoilt : Failure → Run → Run) (next : Run → Run) : Run :=
  let (shown, trouble) := showLines console lines
  let said := { run with output := run.output ++ shown }
  match trouble with
  | none => next said
  | some failure => spoilt failure said

/-- Show a last line. -/
def Run.say (run : Run) (line : String) : Run :=
  run.showing console [line] (fun failure said => { said with ending := .raised failure }) id

/-- End a run with a failure. -/
def Run.fail (run : Run) (isDebug : Bool) (failure : Failure) : Run :=
  let ending := if isDebug then Ending.raised failure else .exit 1
  { run with ending }.say console (failureLine console failure)

/-- Show the graph that is drawn. -/
def Run.conclude (run : Run) (request : Request) (out : Path) (graph : Graph) : Run :=
  let echo := if request.isQuiet then .ok "" else console.verbatim graph.text
  match echo with
  | .error problem => run.fail console request.isDebug (.unshown problem)
  | .ok echo =>
    { run with output := run.output ++ echo }.showing console (closingLines graph out)
      (fun failure said => said.fail console request.isDebug failure) fun said => { said with ending := .exit 0 }

/-- Draw the file that a request is about. -/
def Run.draw (run : Run) (settings : Settings) (request : Request) (out : Path) : Run :=
  let report := drawFile parser settings request.dedupScope run.files request.file out
  let drawn := { run with journal := report.journal, files := report.files }
  match report.outcome with
  | .error failure => drawn.fail console request.isDebug failure
  | .ok graph => drawn.conclude console request out graph

/-- Do what a request asks, unless the user interrupts the work. -/
def perform (settings : Settings) (files : FileSystem) (interrupted : Bool) (request : Request)
    (out : Path) : Run :=
  let level := if request.isVerbose then Level.debug else .info
  let run : Run := { ending := .exit 130, level, files }
  run.showing console (openingLines request settings out)
    (fun failure said => said.fail console request.isDebug failure)
    fun said =>
      if interrupted then said.say console interruptionLine else said.draw parser console settings request out

/-- The path the diagram goes to: the one asked for, or the settings'. -/
def outPath (environment : Environment) (request : Request) : Except PathProblem Path :=
  match request.out with
  | some out => .ok out
  | none => environment.resolve environment.settings.outputPath

/-- Show the help. -/
def showHelp (settings : Settings) (files : FileSystem) : Run :=
  match help settings with
  | .error problem => { ending := .raised (.spoiltTemplate problem), files }
  | .ok text =>
    match console.verbatim text with
    | .error problem => { ending := .raised (.unshown problem), files }
    | .ok output => { output, ending := .refused 0, files }

/-- Run the program. -/
def run (environment : Environment) (files : FileSystem) (interrupted : Bool)
    (arguments : List String) : Run :=
  match readRequest environment arguments with
  | .error .help => showHelp console environment.settings files
  | .error (.misuse message) => { complaints := complaint message, ending := .refused 2, files }
  | .error (.failed failure) => { ending := .raised failure, files }
  | .ok request =>
    match outPath environment request with
    | .error problem => { ending := .raised problem.failure, files }
    | .ok out => perform parser console environment.settings files interrupted request out

end

end TestFlow.CommandLine

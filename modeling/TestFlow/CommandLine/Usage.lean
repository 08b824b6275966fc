import TestFlow.Journal
import TestFlow.Settings
import TestFlow.Text.Template

/-! # What the command line says about itself -/

namespace TestFlow.CommandLine

/-- The options in short. -/
def usage : String :=
  "usage: " ++ programName ++ " [-h] --file FILE [--out OUT] [--dedup-scope \x7btest,run\x7d]\n" ++
    "                 [--quiet] [--verbose] [--debug]\n"

/-- Put words on lines as long as they fit in a width. -/
def wrapFrom (width : Nat) (line : String) : List String → List String
  | [] => [line]
  | word :: words =>
    if line.length + 1 + word.length ≤ width then wrapFrom width (line ++ " " ++ word) words
    else line :: wrapFrom width word words

/-- A paragraph on lines of a width. -/
def wrap (width : Nat) (paragraph : String) : List String :=
  match paragraph.splitOn " " with
  | [] => []
  | word :: words => wrapFrom width word words

/-- An option with what it is for, in two columns; an option too wide for its column has a line of its
own. -/
def optionHelp (option purpose : String) : List String :=
  let indent := "".pushn ' ' 24
  let lines := wrap 54 purpose
  if option.length ≤ 20 then
    match lines with
    | [] => ["  " ++ option]
    | first :: rest => ("  " ++ option.pushn ' ' (22 - option.length) ++ first) :: rest.map (indent ++ ·)
  else ("  " ++ option) :: lines.map (indent ++ ·)

/-- What the option for the diagram is for. This is a template, and it holds the output path as it is set. -/
def outPurpose (settings : Settings) : String :=
  "Output path for the diagram (default: env PWMERMAID_OUTPUT or " ++ settings.outputPath ++ ")"

/-- The values that the purpose of the option for the diagram can name. -/
def outValues (settings : Settings) : List (String × Text.Template.Value) :=
  [("option_strings", .object "list" "['--out']"), ("dest", .words "out"), ("nargs", .nothing),
    ("const", .nothing), ("default", .nothing), ("type", .words "_path"), ("choices", .nothing),
    ("required", .no), ("help", .words (outPurpose settings)), ("metavar", .nothing),
    ("container", .object "_ArgumentGroup" "<argparse._ArgumentGroup object>"), ("prog", .words programName)]

/-- The options with their purposes, given that of the option for the diagram. -/
def optionPurposes (outPurpose : String) : List (String × String) :=
  [("-h, --help", "show this help message and exit"),
    ("--file FILE", "Path to the Playwright test file (.js, .ts, .tsx)"),
    ("--out OUT", outPurpose),
    ("--dedup-scope \x7btest,run\x7d",
      "Reuse repeated steps within one test ('test', default) or across the whole file ('run')"),
    ("--quiet", "Do not echo the diagram to the console"),
    ("--verbose", "Enable debug logging"),
    ("--debug", "Re-raise errors with a full traceback")]

/-- The options in full, unless the output path spoils the purpose that holds it. -/
def help (settings : Settings) : Except Text.Template.Problem String :=
  (Text.Template.fill (outValues settings) (outPurpose settings)).map fun outPurpose =>
    let options := (optionPurposes outPurpose).flatMap fun (option, purpose) => optionHelp option purpose
    usage ++ "\nGenerate a Mermaid flow diagram from a Playwright test file\n\noptions:\n" ++
      "\n".intercalate options ++ "\n"

/-- What is said when the options cannot be understood. -/
def complaint (message : String) : String :=
  usage ++ programName ++ ": error: " ++ message ++ "\n"

end TestFlow.CommandLine

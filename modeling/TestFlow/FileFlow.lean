import TestFlow.FileSystem
import TestFlow.Flow
import TestFlow.Text.Newline

/-! # From a test file to a diagram file

A test file is read, drawn and written out. Writing comes last; if it fails, the files stay as it left them.
-/

namespace TestFlow

/-- The text of a test file: UTF-8 with its line ends unified. -/
def readSource (files : FileSystem) (path : Path) : Except Failure String :=
  match files.naming.refusal? .nulInFileName path with
  | some failure => .error failure
  | none =>
    match (files.read? path).bind String.fromUTF8? with
    | some text => .ok (.ofList (Text.unifyNewlines text.toList))
    | none => .error (.unreadableFile path.text)

/-- What came of a run over files: a graph or a failure, the notes made until then, and the files. -/
structure Report where
  outcome : Except Failure Graph
  journal : List Note
  files : FileSystem

/-- Draw the test file at one path and write the diagram to another. -/
def drawFile (parser : Parser) (settings : Settings) (dedupScope : Option String) (files : FileSystem)
    (source out : Path) : Report :=
  match readSource files source with
  | .error failure => ⟨.error failure, [], files⟩
  | .ok text =>
    let language := source.language.name
    let notes : List Note := [.parsing source.text language]
    match flowOfSource parser settings dedupScope language text with
    | .error failure => ⟨.error failure, notes, files⟩
    | .ok graph =>
      let change := files.writeWithin out graph.text
      let outcome :=
        match change.trouble with
        | none => Except.ok graph
        | some failure => .error failure
      ⟨outcome, notes ++ graph.journal, change.files⟩

end TestFlow

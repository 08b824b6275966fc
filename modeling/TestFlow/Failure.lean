import TestFlow.Syntax.Fault
import TestFlow.Text.Surrogate
import TestFlow.Text.Template

/-! # Failures

Everything that can stop a run, each with the one wording users see.
-/

namespace TestFlow

/-- Why a run stops without a result. -/
inductive Failure where
  | unsupportedLanguage (name : String)
  | malformedSource (fault : Syntax.Fault)
  | unknownDedupScope (name : String)
  | unknownAction (name : String)
  | diagramFinished
  | unreadableFile (path : String)
  | unknownHome
  | noWorkingDirectory
  | linkLoop (path : String)
  | fileInTheWay (path : String)
  | directoryInTheWay (path : String)
  | notADirectory (path : String)
  | notFound (path : String)
  | nameTooLong (path : String)
  | unshown (problem : String)
  | nulInPath (action : String)
  | nulInFileName
  | unencodable (trouble : Text.Unencodable)
  | spoiltTemplate (problem : Text.Template.Problem)
deriving DecidableEq, Repr, Inhabited

/-- The wording of a failure. -/
def Failure.message : Failure → String
  | .unsupportedLanguage name => "Unsupported language: " ++ name
  | .malformedSource fault => fault.message
  | .unknownDedupScope name =>
    "Unknown dedup scope: " ++ Text.quoted name ++ " (expected 'test' or 'run')"
  | .unknownAction name => Text.quoted name ++ " is not a valid ActionKind"
  | .diagramFinished => "Diagram already finished"
  | .unreadableFile path => "Unable to read test file: " ++ path
  | .unknownHome => "Could not determine home directory."
  | .noWorkingDirectory => "[Errno 2] No such file or directory"
  | .linkLoop path => "Symlink loop from " ++ Text.quoted path
  | .fileInTheWay path => "[Errno 17] File exists: " ++ Text.quoted path
  | .directoryInTheWay path => "[Errno 21] Is a directory: " ++ Text.quoted path
  | .notADirectory path => "[Errno 20] Not a directory: " ++ Text.quoted path
  | .notFound path => "[Errno 2] No such file or directory: " ++ Text.quoted path
  | .nameTooLong path => "[Errno 36] File name too long: " ++ Text.quoted path
  | .unshown problem => problem
  | .nulInPath action => action ++ ": embedded null character in path"
  | .nulInFileName => "embedded null byte"
  | .unencodable trouble => trouble.message
  | .spoiltTemplate problem => problem.message

end TestFlow

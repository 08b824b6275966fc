import TestFlow.Diagram.Line

/-! # The journal of a run

A run notes what it decides. Notes for the curious are on the level `debug`, the summary of a run is
on the level `info`.
-/

namespace TestFlow

/-- How much a note matters. -/
inductive Level where
  | debug
  | info
deriving DecidableEq, Repr, Inhabited

def Level.name : Level → String
  | .debug => "DEBUG"
  | .info => "INFO"

/-- Whether a journal kept at a level takes notes of another. -/
def Level.admits : Level → Level → Bool
  | .debug, _ => true
  | .info, level => level = .info

/-- What a run can note. -/
inductive Note where
  | testInsideTest
  | testOpened (number : Nat) (label : String)
  | nodeDeclared (node : Diagram.Node)
  | nodeReused (id : Diagram.NodeId) (kind : StepKind) (target : String)
  | assertionDropped (call : String)
  | parsing (path language : String)
  | built (tests nodes edges : Nat)
deriving DecidableEq, Repr, Inhabited

namespace Note

def level : Note → Level
  | .parsing _ _ => .info
  | .built _ _ _ => .info
  | _ => .debug

def message : Note → String
  | .testInsideTest => "Test started inside an open subgraph; closing it first"
  | .testOpened number label => "Opened subgraph " ++ Diagram.testId number ++ ": " ++ label
  | .nodeDeclared node => "Declared " ++ node.id.text ++ ": " ++ node.label
  | .nodeReused id kind target =>
    "Reusing " ++ id.text ++ " for " ++ kind.name ++ " " ++ target
  | .assertionDropped call => "Dropping assertion without predicate: " ++ call
  | .parsing path language => "Parsing " ++ path ++ " as " ++ language
  | .built tests nodes edges =>
    "Built " ++ toString tests ++ " test subgraphs, " ++ toString nodes ++ " nodes, " ++
      toString edges ++ " edges"

end Note

/-- The notes a journal of a level holds. -/
def journalAt (level : Level) (notes : List Note) : List Note :=
  notes.filter fun note => level.admits note.level

/-- The program's name, under which all its journals are kept. -/
def programName : String :=
  "pwmermaid"

/-- The name of the journal of a part of the program: below the program's own, unless it is there
already. -/
def journalName (part : String) : String :=
  if part = programName || (programName ++ ".").toList.isPrefixOf part.toList then part
  else programName ++ "." ++ part

/-- A journal that is shown on the console. It has one outlet, however often it is set up, and hands
nothing on to other journals. -/
structure JournalOutlet where
  outlets : Nat := 0
  level : Level := .info
  handsOn : Bool := true
deriving DecidableEq, Repr, Inhabited

/-- Set the journal up for the console. -/
def JournalOutlet.setUp (verbose : Bool) (outlet : JournalOutlet) : JournalOutlet :=
  { outlets := if outlet.outlets = 0 then 1 else outlet.outlets
    level := if verbose then .debug else .info
    handsOn := false }

end TestFlow

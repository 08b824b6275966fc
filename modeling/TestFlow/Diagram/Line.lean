import TestFlow.Diagram.Label

/-! # The lines of a diagram

A diagram is a list of lines: two header lines, then the opening and closing of tests, nodes and edges.
Each kind of line has one written form; lines inside a test are indented further.
-/

namespace TestFlow.Diagram

/-- The name of a node: the kind of its step and the number of the node in the diagram. -/
structure NodeId where
  kind : StepKind
  number : Nat
deriving DecidableEq, Repr, Inhabited

/-- The letter that names of nodes of a kind start with. -/
def letter : StepKind → String
  | .navigate => "B"
  | .click => "C"
  | .fill => "D"
  | .assertion => "E"

def NodeId.text (id : NodeId) : String :=
  letter id.kind ++ toString id.number

/-- The name of the test of a number. -/
def testId (number : Nat) : String :=
  "T" ++ toString number

structure Node where
  id : NodeId
  label : String
deriving DecidableEq, Repr, Inhabited

structure Edge where
  source : NodeId
  target : NodeId
deriving DecidableEq, Repr, Inhabited

/-- How a node is declared. -/
def declaration (id label : String) : String :=
  id ++ "(\"" ++ label ++ "\")"

/-- How an edge is stated. -/
def statement (source target : String) : String :=
  source ++ " --> " ++ target

/-- How a test is opened. -/
def opening (id label : String) : String :=
  "subgraph " ++ id ++ " [\"" ++ label ++ "\"]"

/-- The header that sets fonts and colours, the same in every diagram. -/
def theme : String :=
  "%%\x7binit: \x7b\"themeVariables\": \x7b\"fontSize\": \"16px\", \"nodeBorder\": \"1px solid #333\", " ++
    "\"nodeTextColor\": \"#333\", \"edgeColor\": \"#333\", \"nodeBackground\": \"#fff\", " ++
    "\"edgeLabelBackground\": \"#ffffff\"\x7d \x7d\x7d%%"

/-- The lines of a diagram. `inTest` tells a node or an edge of a test from one at top level. -/
inductive Line where
  | theme
  | direction
  | testStart (number : Nat) (label : String)
  | testEnd
  | node (inTest : Bool) (node : Node)
  | edge (inTest : Bool) (edge : Edge)
deriving DecidableEq, Repr, Inhabited

/-- The blanks before a line at top level or inside a test. -/
def indent (inTest : Bool) : String :=
  if inTest then "        " else "    "

namespace Line

/-- The written form of a line. -/
def text : Line → String
  | .theme => Diagram.theme
  | .direction => "flowchart TD"
  | .testStart number label => indent false ++ opening (testId number) label
  | .testEnd => indent false ++ "end"
  | .node inTest declared => indent inTest ++ declaration declared.id.text declared.label
  | .edge inTest stated => indent inTest ++ statement stated.source.text stated.target.text

def node? : Line → Option Node
  | .node _ declared => some declared
  | _ => none

def edge? : Line → Option Edge
  | .edge _ stated => some stated
  | _ => none

def isTestStart : Line → Bool
  | .testStart _ _ => true
  | _ => false

end Line

/-- Lines as a text in which each line ends in a line feed. -/
def textOf (lines : List Line) : String :=
  "\n".intercalate (lines.map Line.text) ++ "\n"

end TestFlow.Diagram

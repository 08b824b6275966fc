import TestFlow.Syntax.Walk

/-! # Faults of a tree

A tree whose root is flagged is refused. The fault is reported at the first bad node in preorder, or
at the root if no node is bad.
-/

namespace TestFlow.Syntax

/-- What is wrong with a bad node. -/
inductive Flaw where
  | missingToken
  | misplaced
deriving DecidableEq, Repr, Inhabited

def Flaw.text : Flaw → String
  | .missingToken => "Missing token"
  | .misplaced => "Syntax error"

/-- Why source is refused; lines and columns count from one. -/
structure Fault where located ::
  flaw : Flaw
  line : Nat
  column : Nat
deriving DecidableEq, Repr, Inhabited

/-- The wording of a fault at a place. -/
def faultText (what : String) (line column : Nat) : String :=
  what ++ " at line " ++ toString line ++ ", column " ++ toString column

def Fault.message (fault : Fault) : String :=
  faultText fault.flaw.text fault.line fault.column

/-- The fault a node is reported with. -/
def Node.fault (node : Node) : Fault :=
  .located (if node.isMissing then .missingToken else .misplaced)
    (node.start.row + 1) (node.start.column + 1)

/-- The first bad node of a tree in preorder. -/
def Node.firstBad? (root : Node) : Option Node :=
  (preorder [root]).find? (·.isBad)

/-- The fault of a tree, if its root is flagged. -/
def Node.fault? (root : Node) : Option Fault :=
  if root.hasError then some (root.firstBad?.getD root).fault else none

end TestFlow.Syntax

import TestFlow.Action.Classify
import TestFlow.Diagram.Builder
import TestFlow.Source.Language

/-! # From a syntax tree to a diagram

The calls of a tree are walked in source order; each call that is an action is handed to a builder, and
when the walk leaves a test declaration the builder ends its test. A faulty tree is refused before
anything is drawn. The parser that makes trees of source texts is up to the caller.
-/

namespace TestFlow

open Syntax Source

/-- A parser. It has a tree for every text, in which it flags what is no part of the language. -/
abbrev Parser :=
  Language → String → Node

/-- A finished diagram. -/
structure Graph where
  text : String
  nodes : Nat
  edges : Nat
  tests : Nat
  journal : List Note
deriving DecidableEq, Repr, Inhabited

/-- The graph a builder has drawn. -/
def Graph.ofBuilder (builder : Diagram.Builder) : Graph :=
  let nodes := builder.nodes.length
  let edges := builder.edges.length
  { text := builder.text, nodes, edges, tests := builder.tests
    journal := builder.journal ++ [.built builder.tests nodes edges] }

/-- Hand one event of a walk to the builder. -/
def drawEvent (settings : Settings) (builder : Diagram.Builder) : Event → Except Failure Diagram.Builder
  | .leave _ => builder.endTest
  | .enter call =>
    match classify settings call with
    | .action found => builder.add found
    | .unfinishedAssertion text => .ok (builder.note (.assertionDropped text))
    | .unrelated => .ok builder

/-- The events of a tree in which test declarations are scopes. -/
def testEvents (settings : Settings) (root : Node) : List Event :=
  events (isTestDeclaration settings) root

/-- Draw a tree. -/
def draw (settings : Settings) (dedupScope : Option String) (root : Node) : Except Failure Graph := do
  let builder ← Diagram.Builder.start settings dedupScope
  let drawn ← (testEvents settings root).foldlM (drawEvent settings) builder
  return .ofBuilder drawn.finish

/-- Refuse a faulty tree. -/
def checkTree (root : Node) : Except Failure Node :=
  match root.fault? with
  | some fault => .error (.malformedSource fault)
  | none => .ok root

/-- A tree that stands for a source text in a language. -/
def acceptTree (language : String) (root : Node) : Except Failure Node := do
  let _ ← Language.ofName language
  checkTree root

/-- The tree of a source text in a language. -/
def acceptSource (parser : Parser) (language text : String) : Except Failure Node := do
  checkTree (parser (← Language.ofName language) text)

/-- The diagram of a tree that stands for a source text in a language. -/
def flowOfTree (settings : Settings) (dedupScope : Option String) (language : String) (root : Node) :
    Except Failure Graph := do
  draw settings dedupScope (← acceptTree language root)

/-- The diagram of a source text in a language. -/
def flowOfSource (parser : Parser) (settings : Settings) (dedupScope : Option String) (language text : String) :
    Except Failure Graph := do
  draw settings dedupScope (← acceptSource parser language text)

end TestFlow

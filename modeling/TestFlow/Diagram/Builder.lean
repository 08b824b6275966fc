import TestFlow.Failure
import TestFlow.Journal
import TestFlow.Settings

/-! # Building a diagram

A builder takes actions one by one and adds lines. Page actions with equal keys share a node as far as
the reuse of the builder goes: within one test, or across the whole run. Computed actions and
assertions have a node of their own each. The steps of a region, that is of one test or of the top
level, are chained by edges: from each step to the next one, never from a node to itself, and no edge
twice in a region.

What has been declared so far is read off the lines: they are the only record of nodes, edges and tests.
-/

namespace TestFlow.Diagram

/-- How far equal steps share a node. -/
inductive Reuse where
  | withinTest
  | acrossRun
deriving DecidableEq, Repr, Inhabited

def Reuse.name : Reuse → String
  | .withinTest => "test"
  | .acrossRun => "run"

/-- The reuse so named, if there is one. -/
def Reuse.ofName? (name : String) : Option Reuse :=
  [Reuse.withinTest, .acrossRun].find? (·.name = name)

theorem Reuse.isSome_ofName? (name : String) :
    (ofName? name).isSome = true ↔ name ∈ ["test", "run"] := by
  change _ ↔ name ∈ [withinTest, acrossRun].map Reuse.name
  simp only [ofName?, List.find?_isSome, List.mem_map, decide_eq_true_eq]

/-- The name of the reuse asked for: the one given, unless none or the empty one is, else the settings'. -/
def Reuse.requested (settings : Settings) (given : Option String) : String :=
  match given with
  | none => settings.dedupScope
  | some name => if name.isEmpty then settings.dedupScope else name

theorem Reuse.requested_eq (settings : Settings) (given : Option String) :
    requested settings given = (given.filter (· ≠ "")).getD settings.dedupScope := by
  cases given with
  | none => rfl
  | some name => by_cases empty : name = "" <;> simp [requested, empty, Option.filter]

/-- The reuse asked for, if its name is known. -/
def Reuse.choose (settings : Settings) (given : Option String) : Except Failure Reuse :=
  match ofName? (requested settings given) with
  | some reuse => .ok reuse
  | none => .error (.unknownDedupScope (requested settings given))

/-- The path walked in one region: where it stands, and the edges drawn. -/
structure Trail where
  last : Option NodeId := none
  edges : List Edge := []
deriving DecidableEq, Repr, Inhabited

/-- The edge that going on to a node adds to a trail: none at the start of the trail, none from a node
to itself, and none that is drawn already. -/
def Trail.newEdge? (trail : Trail) (id : NodeId) : Option Edge :=
  match trail.last with
  | none => none
  | some last =>
    let edge : Edge := ⟨last, id⟩
    if last = id || edge ∈ trail.edges then none else some edge

/-- The trail that has gone on to a node. -/
def Trail.goTo (trail : Trail) (id : NodeId) : Trail :=
  { last := some id, edges := trail.edges ++ (trail.newEdge? id).toList }

/-- Where a builder stands: outside of tests, in the test of a number, or at its end. -/
inductive Phase where
  | outside
  | inTest (number : Nat) (trail : Trail)
  | finished
deriving DecidableEq, Repr, Inhabited

/-- A diagram being built. `shared` maps the keys of steps to the nodes they can share. -/
structure Builder where
  manualPrefix : String
  reuse : Reuse
  phase : Phase := .outside
  lines : List Line := [.theme, .direction]
  shared : List (StepKey × NodeId) := []
  topLevel : Trail := {}
  journal : List Note := []
deriving DecidableEq, Repr, Inhabited

namespace Builder

/-- A builder for the settings and the reuse asked for. -/
def start (settings : Settings) (given : Option String) : Except Failure Builder :=
  (Reuse.choose settings given).map fun reuse =>
    { manualPrefix := settings.manualPrefix, reuse }

def nodes (builder : Builder) : List Node :=
  builder.lines.filterMap Line.node?

def edges (builder : Builder) : List Edge :=
  builder.lines.filterMap Line.edge?

/-- The number of tests opened. -/
def tests (builder : Builder) : Nat :=
  builder.lines.countP Line.isTestStart

/-- The text of the diagram as it stands. -/
def text (builder : Builder) : String :=
  textOf builder.lines

/-- Whether a test is open. -/
def isInTest (builder : Builder) : Bool :=
  match builder.phase with
  | .inTest _ _ => true
  | _ => false

/-- The trail of the current region. -/
def trail (builder : Builder) : Trail :=
  match builder.phase with
  | .inTest _ trail => trail
  | _ => builder.topLevel

/-- Put another trail in the place of the current region's. -/
def setTrail (builder : Builder) (trail : Trail) : Builder :=
  match builder.phase with
  | .inTest number _ => { builder with phase := .inTest number trail }
  | _ => { builder with topLevel := trail }

/-- Make a note. -/
def note (builder : Builder) (note : Note) : Builder :=
  { builder with journal := builder.journal ++ [note] }

/-- Add lines at the end. -/
def write (builder : Builder) (lines : List Line) : Builder :=
  { builder with lines := builder.lines ++ lines }

/-- Forget the shared nodes when sharing ends with the test. -/
def endSharing (builder : Builder) : Builder :=
  match builder.reuse with
  | .withinTest => { builder with shared := [] }
  | .acrossRun => builder

/-- Close the open test, if there is one. -/
def closeTest (builder : Builder) : Builder :=
  match builder.phase with
  | .inTest _ _ => { builder.write [.testEnd] with phase := .outside }.endSharing
  | _ => builder

/-- Close a test that is open when another one starts. -/
def closeOuterTest (builder : Builder) : Builder :=
  if builder.isInTest then (builder.note .testInsideTest).closeTest else builder

/-- Open a test. -/
def openTest (builder : Builder) (action : Action) : Builder :=
  let before := builder.closeOuterTest
  let number := before.tests + 1
  let label := testLabel builder.manualPrefix action
  let opened := { before.endSharing.write [.testStart number (escapeLabel label)] with
    phase := .inTest number {} }
  opened.note (.testOpened number label)

/-- The name of the next node, of the given kind. -/
def nextId (builder : Builder) (kind : StepKind) : NodeId :=
  ⟨kind, builder.nodes.length + 1⟩

/-- Declare the next node for a step. -/
def declare (builder : Builder) (key : StepKey) : Builder :=
  let node : Node := ⟨builder.nextId key.kind, stepLabel key⟩
  (builder.write [.node builder.isInTest node]).note (.nodeDeclared node)

/-- Go on to a node, with the edge that this adds. -/
def goTo (builder : Builder) (id : NodeId) : Builder :=
  let stated := (builder.trail.newEdge? id).toList.map (Line.edge builder.isInTest)
  (builder.write stated).setTrail (builder.trail.goTo id)

/-- Take a step on a node of its own. -/
def takeFresh (builder : Builder) (key : StepKey) : Builder :=
  (builder.declare key).goTo (builder.nextId key.kind)

/-- The node that steps of a key share, if there is one. -/
def sharedNode? (builder : Builder) (key : StepKey) : Option NodeId :=
  builder.shared.lookup key

/-- Let later steps of the key share a node. -/
def share (builder : Builder) (key : StepKey) (id : NodeId) : Builder :=
  { builder with shared := (key, id) :: builder.shared }

/-- Take a step on the node its key shares, or on a fresh one to be shared. -/
def takeShared (builder : Builder) (key : StepKey) : Builder :=
  match builder.sharedNode? key with
  | some id => (builder.note (.nodeReused id key.kind key.target)).goTo id
  | none =>
    let id := builder.nextId key.kind
    ((builder.declare key).share key id).goTo id

/-- Whether a step has a node of its own, whatever its key. -/
def needsOwnNode (kind : StepKind) (action : Action) : Bool :=
  kind = .assertion || action.isComputed

/-- Take a step of a kind. -/
def takeStep (builder : Builder) (kind : StepKind) (action : Action) : Builder :=
  let key : StepKey := ⟨kind, action.target, action.value⟩
  if needsOwnNode kind action then builder.takeFresh key else builder.takeShared key

/-- A builder that is not finished goes on; a finished one refuses. -/
def whileOpen (builder : Builder) (go : Builder → Builder) : Except Failure Builder :=
  match builder.phase with
  | .finished => .error .diagramFinished
  | _ => .ok (go builder)

/-- Start a test, whatever the kind of the action that names it. -/
def startTest (builder : Builder) (action : Action) : Except Failure Builder :=
  builder.whileOpen (·.openTest action)

/-- End the open test; nothing happens if none is open. -/
def endTest (builder : Builder) : Except Failure Builder :=
  builder.whileOpen closeTest

/-- Take an action: start a test, or take a step. -/
def add (builder : Builder) (action : Action) : Except Failure Builder :=
  match action.kind with
  | .testStart => builder.startTest action
  | .step kind => builder.whileOpen (·.takeStep kind action)

/-- Close the open test and finish; a finished builder stays as it is. -/
def finish (builder : Builder) : Builder :=
  { builder.closeTest with phase := .finished }

end Builder

/-- What one can ask of a builder. -/
inductive Operation where
  | add (action : Action)
  | startTest (action : Action)
  | endTest
  | finish
deriving DecidableEq, Repr, Inhabited

/-- Do as an operation asks. -/
def Builder.perform (builder : Builder) : Operation → Except Failure Builder
  | .add action => builder.add action
  | .startTest action => builder.startTest action
  | .endTest => builder.endTest
  | .finish => .ok builder.finish

/-- Do as an operation asks; one that is refused changes nothing. -/
def Builder.attempt (builder : Builder) (operation : Operation) : Builder :=
  match builder.perform operation with
  | .ok next => next
  | .error _ => builder

/-- Do as all operations ask, in order. -/
def Builder.run (builder : Builder) (operations : List Operation) : Builder :=
  operations.foldl attempt builder

end TestFlow.Diagram

/-! # Actions of a test

What a call in a test file does for the diagram: it starts a test, or it is a step, that is a page
action or an assertion.
-/

namespace TestFlow

/-- Kinds of step. -/
inductive StepKind where
  | navigate
  | click
  | fill
  | assertion
deriving DecidableEq, Repr, Inhabited

/-- Kinds of action. -/
inductive ActionKind where
  | testStart
  | step (kind : StepKind)
deriving DecidableEq, Repr, Inhabited

def StepKind.name : StepKind → String
  | .navigate => "navigate"
  | .click => "click"
  | .fill => "fill"
  | .assertion => "assert"

def ActionKind.name : ActionKind → String
  | .testStart => "test_start"
  | .step kind => kind.name

/-- Every kind of action. -/
def ActionKind.all : List ActionKind :=
  [.testStart, .step .navigate, .step .click, .step .fill, .step .assertion]

/-- The kind of action so named, if there is one. -/
def ActionKind.ofName? (name : String) : Option ActionKind :=
  all.find? (·.name = name)

theorem ActionKind.ofName?_name (kind : ActionKind) : ofName? kind.name = some kind := by
  rcases kind with _ | (_ | _ | _ | _) <;> rfl

/-- An action. `target` is the address, the selector, what an assertion is about, or the name of a
test; `value` is the text filled in or the predicate asserted. `isManual` marks a test done by hand,
`isComputed` a page action whose arguments are not all literals. -/
structure Action where
  kind : ActionKind
  target : String
  value : Option String := none
  isManual : Bool := false
  isComputed : Bool := false
deriving DecidableEq, Repr, Inhabited

/-- What makes two page actions the same step. -/
structure StepKey where
  kind : StepKind
  target : String
  value : Option String
deriving DecidableEq, Repr, Inhabited

/-- The key of an action that is a step. -/
def Action.key? (action : Action) : Option StepKey :=
  match action.kind with
  | .testStart => none
  | .step kind => some ⟨kind, action.target, action.value⟩

end TestFlow

import TestFlow.Action
import TestFlow.Action.Detail
import TestFlow.Action.Predicate
import TestFlow.Settings
import TestFlow.Text.Part

/-! # Classifying calls

A call is classified by its callee. A plain name declares a test or asserts something; the methods
`goto`, `click` and `fill`, of whatever receiver, are page actions. Only literals are read: a text that
is missing or computed is empty, and the page action is then marked as computed.
-/

namespace TestFlow

open Syntax

/-- What a call turns out to be. -/
inductive Reading where
  | action (action : Action)
  | unfinishedAssertion (call : String)
  | unrelated
deriving DecidableEq, Repr, Inhabited

def Reading.action? : Reading → Option Action
  | .action found => some found
  | _ => none

/-- The methods that act on a page. -/
inductive PageMethod where
  | goto
  | click
  | fill
deriving DecidableEq, Repr, Inhabited

/-- The page method so named, if there is one. -/
def PageMethod.ofName? : String → Option PageMethod
  | "goto" => some .goto
  | "click" => some .click
  | "fill" => some .fill
  | _ => none

/-- The values of the first two arguments of a call, where they are literals. -/
def firstValue? (call : Node) : Option String :=
  call.callArguments[0]?.bind Node.stringValue?

def secondValue? (call : Node) : Option String :=
  call.callArguments[1]?.bind Node.stringValue?

/-- Whether a call declares a test: a call of the test function with a literal name. -/
def isTestDeclaration (settings : Settings) (call : Node) : Bool :=
  match call.callee? with
  | none => false
  | some callee =>
    callee.kind = .identifier && callee.text = settings.testFunction && (firstValue? call).isSome

/-- The texts of the tags in a tag option: of every element of an array, or of the option itself. -/
def tagTexts (tag : Node) : List String :=
  if tag.kind = .array then tag.namedChildren.filterMap Node.stringValue?
  else tag.stringValue?.toList

/-- Whether the options of a test carry the tag of tests done by hand. -/
def isManual (settings : Settings) (options : Option Node) : Bool :=
  match options with
  | none => false
  | some options =>
    options.kind = .object &&
      match options.objectProperty? "tag" with
      | none => false
      | some tag => (tagTexts tag).any fun text => Text.hasPart settings.manualTag.toList text.toList

/-- A call of the test function. -/
def readTest (settings : Settings) (call : Node) : Reading :=
  match firstValue? call with
  | none => .unrelated
  | some name =>
    .action
      { kind := .testStart, target := name, isManual := isManual settings call.callArguments[1]? }

/-- The selector that a page action's receiver was found by. -/
def receiverSelector? (callee : Node) : Option String :=
  match callee.child? .object with
  | none => none
  | some receiver => if receiver.kind = .callExpression then queryText? receiver else none

/-- The literals a page method is called with: the selector and the text it fills in. The receiver's
selector stands in for a selector that is not given, and is the only one where `fill` is given a
single literal. -/
def fillValues (receiver first second : Option String) : Option String × Option String :=
  if receiver.isSome && second.isNone then (receiver, first) else (first, second)

/-- A call of a page method. -/
def readPageAction (method : PageMethod) (callee call : Node) : Action :=
  match method with
  | .goto =>
    let url := firstValue? call
    { kind := .step .navigate, target := Text.stripScheme (url.getD ""), isComputed := url.isNone }
  | .click =>
    let selector := (firstValue? call).or (receiverSelector? callee)
    { kind := .step .click, target := selector.getD "", isComputed := selector.isNone }
  | .fill =>
    let (selector, text) := fillValues (receiverSelector? callee) (firstValue? call) (secondValue? call)
    { kind := .step .fill, target := selector.getD "", value := some (text.getD ""),
      isComputed := selector.isNone || text.isNone }

/-- A page action depends on three literals. -/
theorem readPageAction_congr (method : PageMethod) {callee other call again : Node}
    (receiver : receiverSelector? other = receiverSelector? callee) (first : firstValue? again = firstValue? call)
    (second : secondValue? again = secondValue? call) :
    readPageAction method other again = readPageAction method callee call := by
  cases method <;> simp only [readPageAction, first, second, receiver]

/-- The detail that a predicate's own argument gives. A member there is what the subject is compared
with, and tells less than the subject. -/
def predicateDetail? (predicate : Node) : Option String :=
  match predicate.callArguments.head? with
  | none => none
  | some argument => if argument.kind = .memberExpression then none else detail? argument

/-- A call of the assertion function. -/
def readAssertion (call : Focus) : Reading :=
  match chainedPredicate? call with
  | none => .unfinishedAssertion call.node.text
  | some predicate =>
    let detail := (predicateDetail? predicate.call.node).or (call.node.callArguments.head?.bind detail?)
    .action { kind := .step .assertion, target := detail.getD "", value := some predicate.label }

/-- What a call turns out to be. -/
def classify (settings : Settings) (call : Focus) : Reading :=
  match call.node.callee? with
  | none => .unrelated
  | some callee =>
    if callee.kind = .identifier then
      if callee.text = settings.testFunction then readTest settings call.node
      else if callee.text = settings.assertionFunction then readAssertion call
      else .unrelated
    else if callee.kind = .memberExpression then
      match callee.memberProperty?.bind PageMethod.ofName? with
      | none => .unrelated
      | some method => .action (readPageAction method callee call.node)
    else .unrelated

/-- A call of a page method. -/
structure CallsPage (method : PageMethod) (callee call : Node) : Prop where
  calls : call.callee? = some callee
  isMember : callee.kind = .memberExpression
  named : callee.memberProperty?.bind PageMethod.ofName? = some method

section

variable {settings : Settings} {call : Focus} {action : Action}

theorem kind_of_readTest {call : Node} (found : readTest settings call = .action action) :
    (firstValue? call).isSome = true ∧ action.kind = .testStart := by
  unfold readTest at found
  split at found
  · cases found
  · rename_i name given
    cases found
    exact ⟨Option.isSome_of_eq_some given, rfl⟩

theorem kind_of_readAssertion (found : readAssertion call = .action action) :
    action.kind = .step .assertion := by
  unfold readAssertion at found
  split at found
  · cases found
  · cases found
    rfl

theorem classify_of_callsPage {method : PageMethod} {callee : Node} (page : CallsPage method callee call.node) :
    classify settings call = .action (readPageAction method callee call.node) := by
  simp [classify, page.calls, page.isMember, page.named]

/-- An action is a test, an assertion or a page action. -/
theorem classify_cases (found : classify settings call = .action action) :
    isTestDeclaration settings call.node = true ∧ readTest settings call.node = .action action ∨
      readAssertion call = .action action ∨
      ∃ method callee, CallsPage method callee call.node ∧
        action = readPageAction method callee call.node := by
  unfold classify at found
  split at found
  · cases found
  · rename_i callee calls
    split at found
    · rename_i isName
      split at found
      · rename_i isTest
        have declares : isTestDeclaration settings call.node = true := by
          simp [isTestDeclaration, calls, isName, isTest, (kind_of_readTest found).1]
        exact .inl ⟨declares, found⟩
      · split at found
        · exact .inr (.inl found)
        · cases found
    · split at found
      · rename_i isMember
        split at found
        · cases found
        · rename_i method named
          cases found
          exact .inr (.inr ⟨method, callee, ⟨calls, isMember, named⟩, rfl⟩)
      · cases found

end

end TestFlow

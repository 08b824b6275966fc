import TestFlow.Syntax.Focus
import TestFlow.Syntax.Literal

/-! # The predicate chained onto a call

An assertion such as `expect(a).not.toBe(1)` says what it asserts in a call chained onto it. The chain
is followed upward from the inner call: through parentheses, and through members whose object is the
chain so far, up to the first call whose callee is the chain so far. That callee has to be a member
with a name. Every `not` on the way negates the predicate once more.
-/

namespace TestFlow

open Syntax

/-- A predicate call chained onto another call. -/
structure ChainedPredicate where
  name : String
  isNegated : Bool
  call : Focus
deriving Repr, Inhabited

/-- A predicate's name as labels show it. -/
def predicateLabel (name : String) (isNegated : Bool) : String :=
  if isNegated then "not " ++ name else name

def ChainedPredicate.label (predicate : ChainedPredicate) : String :=
  predicateLabel predicate.name predicate.isNegated

/-- A predicate goes by its name, with a word in front if it is negated. -/
theorem ChainedPredicate.label_eq (predicate : ChainedPredicate) :
    predicate.label = if predicate.isNegated then "not " ++ predicate.name else predicate.name :=
  rfl

/-- The name by which a chain calls its predicate, if the chain is a member and has one. -/
def calledName? (chain : Node) : Option String :=
  if chain.kind = .memberExpression then chain.memberProperty?.filter (!·.isEmpty) else none

/-- Follow the chain from its node so far up to the predicate call. -/
def predicateAbove? (isNegated : Bool) (chain : Node) : List Frame → Option ChainedPredicate
  | [] => none
  | frame :: path =>
    let parent := frame.parent
    if parent.kind = .memberExpression && frame.isField .object then
      predicateAbove? (isNegated != (parent.memberProperty? = some "not")) parent path
    else if parent.kind = .callExpression && frame.isField .function then
      (calledName? chain).map fun name => ⟨name, isNegated, ⟨parent, path⟩⟩
    else if parent.kind = .parenthesizedExpression then
      predicateAbove? isNegated parent path
    else none

/-- The predicate chained onto a call, if there is one. -/
def chainedPredicate? (call : Focus) : Option ChainedPredicate :=
  predicateAbove? false call.node call.path

end TestFlow

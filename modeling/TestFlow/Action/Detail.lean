import TestFlow.Syntax.Literal
import TestFlow.Text.Scheme

/-! # What an assertion is about

The argument of an assertion gives a short text if it has one to give: a string literal its value, a
regular expression its source, a query such as `page.getByText('x')` its text in quotes, and a chain of
members the name it starts from. A leading web scheme is left out of literal text.
-/

namespace TestFlow

open Syntax

/-- The text of the identifier or `this` that a chain of members starts from, or a general word for a
chain that starts from anything else. -/
def rootName (chain : Node) : String :=
  if chain.kind = .memberExpression then
    match _found : chain.child? .object with
    | some inner => rootName inner
    | none => "subject"
  else if chain.kind = .identifier || chain.kind = .this then chain.text
  else "subject"
termination_by chain.size
decreasing_by exact Node.size_lt_of_child? _found

theorem rootName_of_member {chain : Node} (isMember : chain.kind = .memberExpression) :
    rootName chain = ((chain.child? .object).map rootName).getD "subject" := by
  rw [rootName, if_pos isMember]
  split
  · rename_i inner found
    rw [found, Option.map_some, Option.getD_some]
  · rename_i noObject
    rw [noObject, Option.map_none, Option.getD_none]

theorem rootName_of_no_member {chain : Node} (noMember : chain.kind ≠ .memberExpression) :
    rootName chain = if chain.kind = .identifier || chain.kind = .this then chain.text else "subject" := by
  rw [rootName, if_neg noMember]

/-- The string literal that a method call takes as its first argument. -/
def queryText? (call : Node) : Option String :=
  match call.callee? with
  | none => none
  | some callee =>
    if callee.kind = .memberExpression then call.callArguments.head?.bind Node.stringValue? else none

theorem queryText?_eq_some_iff {call : Node} {text : String} :
    queryText? call = some text ↔ ∃ callee first, call.callee? = some callee ∧
      callee.kind = .memberExpression ∧ call.callArguments.head? = some first ∧
      first.stringValue? = some text := by
  unfold queryText?
  cases call.callee? with
  | none => simp
  | some callee =>
    by_cases isMethod : callee.kind = .memberExpression <;> simp [isMethod, Option.bind_eq_some_iff]

/-- The text an assertion's argument has to give. -/
def detail? (argument : Node) : Option String :=
  match argument.kind with
  | .callExpression => (queryText? argument).map fun text => "'" ++ Text.stripScheme text ++ "'"
  | .memberExpression => some (rootName argument)
  | .string | .templateString => argument.stringValue?.map Text.stripScheme
  | .regex => some argument.regexText
  | _ => none

end TestFlow

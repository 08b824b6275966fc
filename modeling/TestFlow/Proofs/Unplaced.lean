import TestFlow.Action.Classify

/-! # The same source elsewhere

A piece of source gives the same tree wherever it stands in a text, but for the places where the nodes
start. What is read of literals, of calls and of their arguments does not depend on those places.
-/

namespace TestFlow.Syntax.Node

mutual

/-- The tree with all of its nodes at the start of the text. -/
def unplaced : Node → Node
  | ⟨kind, field, named, text, isError, isMissing, hasError, _, children⟩ =>
    ⟨kind, field, named, text, isError, isMissing, hasError, ⟨0, 0⟩, allUnplaced children⟩

/-- The trees of a forest with all of their nodes at the start of the text. -/
def allUnplaced : List Node → List Node
  | [] => []
  | node :: rest => node.unplaced :: allUnplaced rest

end

theorem allUnplaced_eq (forest : List Node) : allUnplaced forest = forest.map unplaced := by
  induction forest with
  | nil => rfl
  | cons node rest ih => rw [allUnplaced, ih, List.map_cons]

variable (node : Node)

@[simp]
theorem unplaced_kind : node.unplaced.kind = node.kind := by
  cases node
  rfl

@[simp]
theorem unplaced_field : node.unplaced.field = node.field := by
  cases node
  rfl

@[simp]
theorem unplaced_named : node.unplaced.named = node.named := by
  cases node
  rfl

@[simp]
theorem unplaced_text : node.unplaced.text = node.text := by
  cases node
  rfl

@[simp]
theorem unplaced_children : node.unplaced.children = node.children.map unplaced := by
  cases node
  exact allUnplaced_eq _

@[simp]
theorem unplaced_child? (field : Field) : node.unplaced.child? field = (node.child? field).map unplaced := by
  have same : (fun part : Node => decide (part.field = some field)) ∘ unplaced =
      fun part => decide (part.field = some field) := funext fun part => by rw [Function.comp_apply, unplaced_field]
  rw [child?, child?, unplaced_children, List.find?_map, same]

@[simp]
theorem unplaced_namedChildren : node.unplaced.namedChildren = node.namedChildren.map unplaced := by
  simp [namedChildren, List.filter_map, Function.comp_def]

@[simp]
theorem unplaced_memberProperty? : node.unplaced.memberProperty? = node.memberProperty? := by
  simp [memberProperty?, Function.comp_def]

@[simp]
theorem unplaced_callArguments : node.unplaced.callArguments = node.callArguments.map unplaced := by
  unfold callArguments
  rw [unplaced_child?]
  cases node.child? .arguments with
  | none => rfl
  | some list =>
    by_cases isList : list.kind = .arguments <;> simp [isList, List.filter_map, Function.comp_def]

@[simp]
theorem unplaced_isStringLike : node.unplaced.isStringLike = node.isStringLike := by
  simp [isStringLike]

@[simp]
theorem unplaced_literalPart : node.unplaced.literalPart = node.literalPart := by
  simp [literalPart]

@[simp]
theorem unplaced_stringValue? : node.unplaced.stringValue? = node.stringValue? := by
  simp [stringValue?, Function.comp_def]

@[simp]
theorem unplaced_regexText : node.unplaced.regexText = node.regexText := by
  simp [regexText, fieldText, Function.comp_def]

end TestFlow.Syntax.Node

namespace TestFlow.Syntax

/-- Two nodes, if there are any, are the same piece of source, wherever it stands. -/
def SameSource (first second : Option Node) : Prop :=
  first.map Node.unplaced = second.map Node.unplaced

theorem SameSource.map_eq {β : Type} {first second : Option Node} (same : SameSource first second)
    {read : Node → β} (unmoved : ∀ node : Node, read node.unplaced = read node) :
    first.map read = second.map read := by
  have moved (node : Option Node) : (node.map Node.unplaced).map read = node.map read := by
    cases node <;> simp [unmoved]
  rw [← moved first, same, moved]

theorem SameSource.bind_eq {β : Type} {first second : Option Node} (same : SameSource first second)
    {read : Node → Option β} (unmoved : ∀ node : Node, read node.unplaced = read node) :
    first.bind read = second.bind read := by
  have moved (node : Option Node) : (node.map Node.unplaced).bind read = node.bind read := by
    cases node <;> simp [unmoved]
  rw [← moved first, same, moved]

end TestFlow.Syntax

namespace TestFlow

open Syntax

variable (node : Syntax.Node)

@[simp]
theorem queryText?_unplaced : queryText? node.unplaced = queryText? node := by
  unfold queryText?
  rw [Node.callee?, Node.callee?, Node.unplaced_child?]
  cases node.child? .function with
  | none => rfl
  | some callee =>
    have sameText : node.unplaced.callArguments.head?.bind Node.stringValue? =
        node.callArguments.head?.bind Node.stringValue? := by
      rw [Node.unplaced_callArguments]
      cases node.callArguments with
      | nil => rfl
      | cons first rest => exact first.unplaced_stringValue?
    simp only [Option.map_some, Node.unplaced_kind, sameText]

@[simp]
theorem receiverSelector?_unplaced : receiverSelector? node.unplaced = receiverSelector? node := by
  unfold receiverSelector?
  rw [Node.unplaced_child?]
  cases node.child? .object with
  | none => rfl
  | some receiver => simp

@[simp]
theorem rootName_unplaced : rootName node.unplaced = rootName node := by
  induction node using rootName.induct with
  | case1 chain isMember inner found ih =>
    have stillMember := chain.unplaced_kind.trans isMember
    rw [rootName_of_member stillMember, rootName_of_member isMember, Node.unplaced_child?, found]
    exact ih
  | case2 chain isMember noObject =>
    have stillMember := chain.unplaced_kind.trans isMember
    rw [rootName_of_member stillMember, rootName_of_member isMember, Node.unplaced_child?, noObject]
    rfl
  | _ chain noMember _ =>
    have stillNoMember : chain.unplaced.kind ≠ .memberExpression := by rwa [Node.unplaced_kind]
    rw [rootName_of_no_member stillNoMember, rootName_of_no_member noMember, Node.unplaced_kind,
      Node.unplaced_text]

@[simp]
theorem detail?_unplaced : detail? node.unplaced = detail? node := by
  simp [detail?]

end TestFlow

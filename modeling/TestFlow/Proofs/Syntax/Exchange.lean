import TestFlow.Proofs.Syntax.Kinship
import TestFlow.Proofs.Unplaced

/-! # Exchanging a part of a tree

Where other source stands in the place of a part, the nodes that enclose the part are written otherwise and
what is behind it has moved. Nothing else is different: a call whose argument is exchanged for one of the
same value has the same callee and the same argument values.
-/

namespace TestFlow.Syntax

/-- Two nodes of one kind and one name have the same children but for one, wherever those stand. -/
structure AlikeBut (index : Nat) (child other before after : Node) : Prop where
  kind : after.kind = before.kind
  field : after.field = before.field
  old : before.children[index]? = some child
  new : after.children[index]? = some other
  siblings : ∀ sibling, sibling ≠ index → SameSource after.children[sibling]? before.children[sibling]?

/-- The second tree is the first one with another part in a place, under the name that the old part had. The
place is told by indices, outermost first. -/
inductive Exchanged (part : Node) : List Nat → Node → Node → Prop where
  | here {before after : Node} (moved : after.unplaced = { part with field := before.field }.unplaced) :
      Exchanged part [] before after
  | inside {index : Nat} {place : List Nat} {child other before after : Node}
      (alike : AlikeBut index child other before after) (exchanged : Exchanged part place child other) :
      Exchanged part (index :: place) before after

section

variable {part child other before after : Node} {field : Field} {index : Nat} {place : List Nat}

theorem Exchanged.field_eq (exchanged : Exchanged part place before after) : after.field = before.field := by
  cases exchanged with
  | here moved => rw [← after.unplaced_field, moved, Node.unplaced_field]
  | inside alike _ => exact alike.field

theorem AlikeBut.map_children {β : Type} {read : Node → β} (alike : AlikeBut index child other before after)
    (unmoved : ∀ node, read node.unplaced = read node) (same : read other = read child) :
    after.children.map read = before.children.map read := by
  apply List.ext_getElem?
  intro sibling
  rw [List.getElem?_map, List.getElem?_map]
  by_cases here : sibling = index
  · rw [here, alike.old, alike.new, Option.map_some, Option.map_some, same]
  · exact (alike.siblings sibling here).map_eq unmoved

/-! ## Children known by names -/

theorem child?_eq_bind_childIndex? (node : Node) (field : Field) :
    node.child? field = (node.childIndex? field).bind (node.children[·]?) :=
  List.find?_eq_bind_findIdx?_getElem?

theorem eq_of_childIndex? {node : Node} {sibling : Field} (first : node.childIndex? field = some index)
    (second : node.childIndex? sibling = some index) : sibling = field := by
  obtain ⟨_, isField, -⟩ := List.findIdx?_eq_some_iff_getElem.mp first
  obtain ⟨_, isSibling, -⟩ := List.findIdx?_eq_some_iff_getElem.mp second
  simp only [decide_eq_true_eq] at isField isSibling
  exact Option.some.inj (isSibling.symm.trans isField)

theorem AlikeBut.childIndex? (alike : AlikeBut index child other before after)
    (same : other.field = child.field) (field : Field) : after.childIndex? field = before.childIndex? field := by
  have index (node : Node) : node.childIndex? field =
      (node.children.map Node.field).findIdx? (decide <| · = some field) := by
    rw [Node.childIndex?, List.findIdx?_map]
    rfl
  rw [index, index, alike.map_children Node.unplaced_field same]

/-- Two nodes are alike but for the child of a name. -/
structure Renewed (name : Field) (other before after : Node) : Prop where
  kind : after.kind = before.kind
  child : after.child? name = some other
  siblings : ∀ sibling, sibling ≠ name → SameSource (after.child? sibling) (before.child? sibling)

theorem AlikeBut.renewed (alike : AlikeBut index child other before after) (same : other.field = child.field)
    (first : before.childIndex? field = some index) : Renewed field other before after := by
  refine ⟨alike.kind, ?_, fun sibling differ => ?_⟩
  · rw [child?_eq_bind_childIndex?, alike.childIndex? same, first, Option.bind_some, alike.new]
  · rw [child?_eq_bind_childIndex?, child?_eq_bind_childIndex?, alike.childIndex? same]
    cases second : before.childIndex? sibling with
    | none => rfl
    | some place =>
      refine alike.siblings place fun here => differ ?_
      exact eq_of_childIndex? first (here ▸ second)

end

section

variable {focus child call : Focus} {part after : Node} {field : Field} {index : Nat} {place : List Nat}

theorem Exchanged.cons (exchanged : Exchanged part (index :: place) focus.node after)
    (entered : focus.children[index]? = some child) :
    ∃ other, AlikeBut index child.node other focus.node after ∧ Exchanged part place child.node other := by
  cases exchanged with
  | inside alike inner =>
    have old := alike.old
    rw [← focus.children_map_node, List.getElem?_map, entered] at old
    obtain rfl := Option.some.inj old
    exact ⟨_, alike, inner⟩

/-- What is exchanged within a child of a name is exchanged in the child. -/
theorem Exchanged.within_child (exchanged : Exchanged part place focus.node after)
    (stands : call.position = place.reverse ++ focus.position) (found : focus.child? field = some child)
    (inside : call.isWithin child = true) :
    ∃ below other, call.position = below.reverse ++ child.position ∧ Exchanged part below child.node other ∧
      Renewed field other focus.node after := by
  obtain ⟨index, first, entered⟩ := Focus.child?_eq_some_iff.mp found
  obtain ⟨lower, position⟩ := Focus.isWithin_iff.mp inside
  rw [Focus.position_of_getElem? entered] at position
  have split : (lower ++ [index]) ++ focus.position = place.reverse ++ focus.position := by
    rw [← stands, ← position, List.append_assoc, List.singleton_append]
  have onTheWay : place = index :: lower.reverse := by
    rw [← place.reverse_reverse, ← List.append_cancel_right split, List.reverse_append, List.reverse_singleton,
      List.singleton_append]
  subst onTheWay
  obtain ⟨other, alike, below⟩ := exchanged.cons entered
  refine ⟨lower.reverse, other, ?_, below, alike.renewed below.field_eq first⟩
  rw [List.reverse_reverse, ← position, Focus.position_of_getElem? entered]

/-- Every part of a tree can be exchanged for any other one. -/
theorem exists_exchanged (part : Node) (member : call ∈ focus.subtree) :
    ∃ place after, call.position = place.reverse ++ focus.position ∧ Exchanged part place focus.node after := by
  induction focus using Focus.induction with
  | below focus ih =>
    rw [Focus.subtree_eq, List.mem_cons, List.mem_flatMap] at member
    rcases member with rfl | ⟨child, among, inChild⟩
    · exact ⟨[], { part with field := call.node.field }, rfl, .here rfl⟩
    · obtain ⟨place, other, stands, exchanged⟩ := ih child among inChild
      obtain ⟨index, entered, position⟩ := Focus.exists_of_mem_children among
      have old : focus.node.children[index]? = some child.node := by
        rw [← focus.children_map_node, List.getElem?_map, entered, Option.map_some]
      refine ⟨index :: place, { focus.node with children := focus.node.children.set index other }, ?_,
        .inside ⟨rfl, rfl, old, ?_, fun sibling differ => ?_⟩ exchanged⟩
      · rw [stands, position, List.reverse_cons, List.append_assoc, List.singleton_append]
      · exact List.getElem?_set_self (List.getElem?_eq_some_iff.mp old).1
      · exact congrArg _ (List.getElem?_set_ne differ.symm)

end

/-! ## Arguments -/

/-- Whether the node is an argument where it stands in a list of arguments. -/
def Node.isArgument (node : Node) : Bool :=
  node.named && node.kind ≠ .comment

namespace Focus

/-- The arguments of a call, each in its place. -/
def arguments (call : Focus) : List Focus :=
  match call.child? .arguments with
  | none => []
  | some list => if list.node.kind = .arguments then list.children.filter (·.node.isArgument) else []

variable {call argument : Focus}

theorem arguments_map_node (call : Focus) : call.arguments.map (·.node) = call.node.callArguments := by
  rw [Node.callArguments, arguments, ← child?_map_node]
  cases call.child? .arguments with
  | none => rfl
  | some list =>
    by_cases isList : list.node.kind = .arguments
    · simp only [Option.map_some, isList, if_true, Node.namedChildren, List.filter_filter,
        ← list.children_map_node, List.filter_map]
      congr 2
      funext child
      simp [Node.isArgument, Bool.and_comm]
    · simp [isList]

theorem mem_arguments_iff : argument ∈ call.arguments ↔ ∃ list, call.child? .arguments = some list ∧
    list.node.kind = .arguments ∧ argument ∈ list.children ∧ argument.node.isArgument = true := by
  unfold arguments
  cases call.child? .arguments with
  | none => simp
  | some list => by_cases isList : list.node.kind = .arguments <;> simp [isList]

theorem mem_subtree_of_mem_arguments (among : argument ∈ call.arguments) : argument ∈ call.subtree := by
  obtain ⟨list, found, -, member, -⟩ := mem_arguments_iff.mp among
  exact mem_subtree_of_child? found (mem_subtree_of_child member argument.self_mem_subtree)

end Focus

/-! ## Values of arguments -/

namespace Node

/-- What there is to a node as an argument: nothing if it is none, and else its value. -/
def argumentValue? (node : Node) : Option (Option String) :=
  if node.isArgument then some node.stringValue? else none

/-- The values of the arguments in a list of arguments. -/
def argumentValues (list : Node) : List (Option String) :=
  if list.kind = .arguments then (list.children.map argumentValue?).filterMap id else []

@[simp]
theorem argumentValue?_unplaced (node : Node) : node.unplaced.argumentValue? = node.argumentValue? := by
  simp [argumentValue?, isArgument]

@[simp]
theorem argumentValues_unplaced (list : Node) : list.unplaced.argumentValues = list.argumentValues := by
  simp [argumentValues]

theorem callArguments_map_stringValue? (call : Node) :
    call.callArguments.map stringValue? = ((call.child? .arguments).map argumentValues).getD [] := by
  unfold callArguments
  cases call.child? .arguments with
  | none => rfl
  | some list =>
    by_cases isList : list.kind = .arguments
    · simp only [Option.map_some, Option.getD_some, argumentValues, isList, if_true, namedChildren,
        List.filter_filter]
      induction list.children with
      | nil => rfl
      | cons child rest ih =>
        rw [List.map_cons, List.filterMap_cons, ← ih, List.filter_cons, argumentValue?, isArgument,
          Bool.and_comm]
        split <;> rfl
    · simp [argumentValues, isList]

theorem argument_of_values {before after : Node}
    (values : after.callArguments.map stringValue? = before.callArguments.map stringValue?) (index : Nat) :
    after.callArguments[index]?.bind stringValue? = before.callArguments[index]?.bind stringValue? := by
  have read (call : Node) :
      call.callArguments[index]?.bind stringValue? = (call.callArguments.map stringValue?)[index]?.bind id := by
    rw [List.getElem?_map, Option.bind_map, Function.id_comp]
  rw [read, read, values]

end Node

/-- A call with the same callee and with arguments of the same values. -/
structure SameCall (before after : Node) : Prop where
  kind : after.kind = before.kind
  callee : SameSource after.callee? before.callee?
  values : after.callArguments.map Node.stringValue? = before.callArguments.map Node.stringValue?

theorem SameCall.exists_callee {before after callee : Node} (same : SameCall before after)
    (calls : before.callee? = some callee) :
    ∃ other, after.callee? = some other ∧ other.unplaced = callee.unplaced := by
  have moved := same.callee
  rwa [SameSource, calls, Option.map_some, Option.map_eq_some_iff] at moved

/-- A call whose argument is exchanged for one of the same value. -/
theorem Exchanged.sameCall {call argument : Focus} {part after : Node} {place : List Nat}
    (exchanged : Exchanged part place call.node after)
    (stands : argument.position = place.reverse ++ call.position) (among : argument ∈ call.arguments)
    (isArgument : part.isArgument = true) (same : part.stringValue? = argument.node.stringValue?) :
    SameCall call.node after := by
  obtain ⟨list, found, isList, member, wasArgument⟩ := Focus.mem_arguments_iff.mp among
  obtain ⟨below, newList, stands, inList, renewed⟩ :=
    exchanged.within_child stands found (Focus.isWithin_of_mem_children member)
  obtain ⟨index, here, position⟩ := Focus.exists_of_mem_children member
  rw [position] at stands
  have reversed : [index] = below.reverse := List.append_cancel_right stands
  obtain rfl : below = [index] := List.reverse_eq_cons_iff.mp reversed.symm
  obtain ⟨newArgument, alike, ends⟩ := inList.cons here
  have value : newArgument.argumentValue? = argument.node.argumentValue? := by
    cases ends with
    | here moved =>
      have given : argument.node.argumentValue? = some part.stringValue? := by
        rw [Node.argumentValue?, wasArgument, if_pos rfl, same]
      rw [given, ← Node.argumentValue?_unplaced, moved, Node.argumentValue?_unplaced]
      exact if_pos isArgument
  have values : newList.argumentValues = list.node.argumentValues := by
    rw [Node.argumentValues, Node.argumentValues, alike.kind,
      alike.map_children Node.argumentValue?_unplaced value]
  refine ⟨renewed.kind, renewed.siblings .function (by decide), ?_⟩
  rw [Node.callArguments_map_stringValue?, Node.callArguments_map_stringValue?, renewed.child,
    ← call.child?_map_node, found, Option.map_some, Option.map_some, Option.map_some, values]

end TestFlow.Syntax

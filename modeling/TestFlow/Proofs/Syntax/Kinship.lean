import TestFlow.Proofs.Syntax.Traversal

/-! # Parents and named children

A node in its place knows its parent, and in a tree it is among the children of that parent. A parent knows
some of its children by a name; of several children of one name it knows the first.
-/

namespace TestFlow.Syntax.Focus

variable {focus parent child : Focus} {field : Field}

/-- The node that holds a node; the root has none. -/
def parent? (focus : Focus) : Option Focus :=
  match focus.path with
  | [] => none
  | frame :: path => some ⟨frame.parent, path⟩

/-- The first child known by the field name, in its place. -/
def child? (focus : Focus) (field : Field) : Option Focus :=
  focus.children.find? (·.node.field = some field)

theorem child?_map_node (focus : Focus) (field : Field) :
    (focus.child? field).map (·.node) = focus.node.child? field := by
  rw [Node.child?, ← focus.children_map_node, List.find?_map]
  rfl

theorem mem_children_of_child? (found : focus.child? field = some child) : child ∈ focus.children :=
  List.mem_of_find?_eq_some found

theorem mem_subtree_of_child? (found : focus.child? field = some child) {call : Focus}
    (inChild : call ∈ child.subtree) : call ∈ focus.subtree :=
  mem_subtree_of_child (mem_children_of_child? found) inChild

theorem parent?_of_mem_children (member : child ∈ focus.children) : child.parent? = some focus := by
  obtain ⟨index, found⟩ := List.getElem?_of_mem member
  rw [eq_of_getElem? found, parent?]

/-- In a tree, parents hold their children. -/
theorem mem_children_of_parent? {root : Node} (inTree : child ∈ (Focus.root root).subtree)
    (above : child.parent? = some parent) :
    child ∈ parent.children ∧ parent ∈ (Focus.root root).subtree := by
  rw [mem_subtree_iff] at inTree
  rcases Relation.ReflTransGen.cases_tail inTree with rfl | ⟨holder, leads, member⟩
  · cases above
  · obtain rfl := Option.some.inj (above.symm.trans (parent?_of_mem_children member))
    exact ⟨member, mem_subtree_iff.mpr leads⟩

theorem child?_eq_some_iff : focus.child? field = some child ↔ ∃ index,
    focus.node.childIndex? field = some index ∧ focus.children[index]? = some child := by
  rw [child?, List.find?_eq_bind_findIdx?_getElem?, Option.bind_eq_some_iff, Node.childIndex?,
    ← focus.children_map_node, List.findIdx?_map]
  rfl

/-- The way up from a child tells by which names its parent knows it. -/
theorem isField_iff {frame : Frame} {path : List Frame} (field : Field) (member : child ∈ focus.children)
    (entered : child.path = frame :: path) :
    frame.isField field = true ↔ focus.child? field = some child := by
  obtain ⟨index, found⟩ := List.getElem?_of_mem member
  rw [eq_of_getElem? found] at entered
  obtain ⟨rfl, -⟩ := List.cons.inj entered
  rw [Frame.isField, decide_eq_true_iff, child?_eq_some_iff]
  constructor
  · exact fun first => ⟨index, first, found⟩
  · rintro ⟨place, first, met⟩
    have same := (position_of_getElem? met).symm.trans (position_of_getElem? found)
    rw [first, (List.cons.inj same).1]

end TestFlow.Syntax.Focus

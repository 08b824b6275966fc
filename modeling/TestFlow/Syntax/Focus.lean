import TestFlow.Syntax.Node

/-! # Nodes in their place

A `Focus` is a node together with the way up to the root, so that a reader can look at the parent of
a node and tell which of its children the node is. Two equal subtrees at different positions are
different foci.
-/

namespace TestFlow.Syntax

/-- One step of the way up: the parent, and the position among its children one came from. -/
structure Frame where
  parent : Node
  index : Nat
deriving Repr, Inhabited

/-- A node and the way up from it, innermost parent first. -/
structure Focus where
  node : Node
  path : List Frame
deriving Repr, Inhabited

namespace Focus

/-- The root of a tree, which has no parent. -/
def root (node : Node) : Focus :=
  ⟨node, []⟩

/-- The node's children in order, each in its place. -/
def children (focus : Focus) : List Focus :=
  focus.node.children.mapIdx fun index child => ⟨child, ⟨focus.node, index⟩ :: focus.path⟩

theorem children_map_node (focus : Focus) : focus.children.map (·.node) = focus.node.children := by
  apply List.ext_getElem <;> simp [children]

end Focus

/-- What can be said of nodes can be said of them in their places. -/
instance : Coe (Node → Bool) (Focus → Bool) where
  coe holds focus := holds focus.node

/-- Whether the frame was entered from the first child known by the field name. -/
def Frame.isField (frame : Frame) (field : Field) : Bool :=
  frame.parent.childIndex? field = some frame.index

end TestFlow.Syntax

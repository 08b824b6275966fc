import TestFlow.Syntax.Focus

/-! # Walking a tree

`preorder` lists the nodes of a tree, parents before children and children from left to right.
`events` lists the calls of a tree in the same order and tells, for calls that open a scope, when the
walk has left their subtree. Both keep what is left to do in a list of their own, so that a deep tree
needs no deep recursion over its nodes.
-/

namespace TestFlow.Syntax

/-- The nodes of a forest, each before what it holds. -/
def preorder : List Node → List Node
  | [] => []
  | node :: rest => node :: preorder (node.children ++ rest)
termination_by pending => Node.sizes pending
decreasing_by
  have append (front : List Node) : Node.sizes (front ++ rest) = Node.sizes front + Node.sizes rest := by
    induction front with
    | nil => simp [Node.sizes]
    | cons head tail ih => simp [Node.sizes, ih, Nat.add_assoc]
  simp only [append, Node.sizes, Node.size_eq]
  omega

/-- What a walk reports: a call before its subtree, and a scope call once its subtree is done. -/
inductive Event where
  | enter (call : Focus)
  | leave (call : Focus)
deriving Repr, Inhabited

/-- What a walk has still to do. -/
inductive Pending where
  | visit (focus : Focus)
  | leave (call : Focus)

/-- The work an entry still stands for. -/
def Pending.weight : Pending → Nat
  | .visit focus => 2 * focus.node.size
  | .leave _ => 1

/-- The work a list of entries stands for. -/
def Pending.weights : List Pending → Nat
  | [] => 0
  | entry :: rest => entry.weight + weights rest

theorem Pending.weights_append (front back : List Pending) :
    weights (front ++ back) = weights front + weights back := by
  induction front with
  | nil => simp [weights]
  | cons head tail ih => simp [weights, ih, Nat.add_assoc]

theorem Pending.weights_visit (foci : List Focus) :
    weights (foci.map .visit) = 2 * Node.sizes (foci.map (·.node)) := by
  induction foci with
  | nil => rfl
  | cons head tail ih =>
    simp only [List.map_cons, weights, weight, ih, Node.sizes, Nat.mul_add]

/-- The entries that replace a visit: the children, and for a scope call its leaving below them. -/
def Pending.expand (isScope : Focus → Bool) (focus : Focus) : List Pending :=
  focus.children.map .visit ++
    if focus.node.isCall && isScope focus then [.leave focus] else []

theorem Pending.weights_expand_lt (isScope : Focus → Bool) (focus : Focus) (rest : List Pending) :
    weights (expand isScope focus ++ rest) < weights (.visit focus :: rest) := by
  have leaving : weights (if focus.node.isCall && isScope focus then [.leave focus] else []) ≤ 1 := by
    split <;> simp [weights, weight]
  have visiting : weights (.visit focus :: rest) = 2 * focus.node.size + weights rest := by
    rfl
  rw [weights_append, visiting, expand, weights_append, weights_visit, Focus.children_map_node, Node.size_eq]
  omega

/-- The calls met while working off the entries, with the leaving of each scope call. -/
def walk (isScope : Focus → Bool) : List Pending → List Event
  | [] => []
  | .leave call :: rest => .leave call :: walk isScope rest
  | .visit focus :: rest =>
    if focus.node.isCall then
      .enter focus :: walk isScope (Pending.expand isScope focus ++ rest)
    else
      walk isScope (Pending.expand isScope focus ++ rest)
termination_by pending => Pending.weights pending
decreasing_by
  · simp [Pending.weights, Pending.weight]
  · exact Pending.weights_expand_lt isScope focus rest
  · exact Pending.weights_expand_lt isScope focus rest

/-- The events of a whole tree. -/
def events (isScope : Focus → Bool) (root : Node) : List Event :=
  walk isScope [.visit (.root root)]

/-- The call an event is about. -/
def Event.call : Event → Focus
  | .enter call => call
  | .leave call => call

/-- The calls of a tree in the order they are entered. -/
def calls (root : Node) : List Focus :=
  (events (fun _ => false) root).map (·.call)

end TestFlow.Syntax

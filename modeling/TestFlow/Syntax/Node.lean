/-! # Syntax trees

A tree as the readers of this library see it: kinds, field names, text and children. Trees may be
odd. Fields may be missing, kinds may stand where no grammar puts them, and `hasError` need not
agree with the error marks below it: nothing here assumes a grammar.
-/

namespace TestFlow.Syntax

/-- Kinds of node; the ones a reader asks for have a constructor of their own. -/
inductive Kind where
  | callExpression
  | memberExpression
  | parenthesizedExpression
  | arguments
  | identifier
  | this
  | propertyIdentifier
  | string
  | templateString
  | templateSubstitution
  | escapeSequence
  | regex
  | object
  | pair
  | array
  | comment
  | other (name : String)
deriving DecidableEq, Repr, Inhabited

/-- The grammar's name of a kind. -/
def Kind.name : Kind → String
  | .callExpression => "call_expression"
  | .memberExpression => "member_expression"
  | .parenthesizedExpression => "parenthesized_expression"
  | .arguments => "arguments"
  | .identifier => "identifier"
  | .this => "this"
  | .propertyIdentifier => "property_identifier"
  | .string => "string"
  | .templateString => "template_string"
  | .templateSubstitution => "template_substitution"
  | .escapeSequence => "escape_sequence"
  | .regex => "regex"
  | .object => "object"
  | .pair => "pair"
  | .array => "array"
  | .comment => "comment"
  | .other name => name

/-- The kinds with a constructor of their own. -/
def Kind.known : List Kind :=
  [.callExpression, .memberExpression, .parenthesizedExpression, .arguments, .identifier, .this,
    .propertyIdentifier, .string, .templateString, .templateSubstitution, .escapeSequence, .regex,
    .object, .pair, .array, .comment]

/-- The kind a grammar names so. -/
def Kind.ofName (name : String) : Kind :=
  (known.find? (·.name == name)).getD (.other name)

theorem Kind.name_ofName (name : String) : (ofName name).name = name := by
  unfold ofName
  cases found : known.find? (·.name == name) with
  | none => rfl
  | some kind => simpa using List.find?_some found

/-- Names under which a node can find a child; the ones a reader asks for have a constructor. -/
inductive Field where
  | function
  | arguments
  | object
  | property
  | key
  | value
  | pattern
  | flags
  | other (name : String)
deriving DecidableEq, Repr, Inhabited

/-- The grammar's name of a field. -/
def Field.name : Field → String
  | .function => "function"
  | .arguments => "arguments"
  | .object => "object"
  | .property => "property"
  | .key => "key"
  | .value => "value"
  | .pattern => "pattern"
  | .flags => "flags"
  | .other name => name

/-- The fields with a constructor of their own. -/
def Field.known : List Field :=
  [.function, .arguments, .object, .property, .key, .value, .pattern, .flags]

/-- The field a grammar names so. -/
def Field.ofName (name : String) : Field :=
  (known.find? (·.name == name)).getD (.other name)

theorem Field.name_ofName (name : String) : (ofName name).name = name := by
  unfold ofName
  cases found : known.find? (·.name == name) with
  | none => rfl
  | some field => simpa using List.find?_some found

/-- A zero-based place in a text. -/
structure Place where
  row : Nat
  column : Nat
deriving DecidableEq, Repr, Inhabited

/-- A syntax tree. `field` is the name the parent knows the node by, `named` tells it from mere
punctuation, and `text` is the source it covers (not computed from the children). -/
structure Node where
  kind : Kind
  field : Option Field
  named : Bool
  text : String
  isError : Bool
  isMissing : Bool
  hasError : Bool
  start : Place
  children : List Node
deriving Repr, Inhabited

namespace Node

/-- A sound named node without a field name. -/
def plain (kind : Kind) (text : String) (children : List Node) : Node :=
  { kind, field := none, named := true, text, isError := false, isMissing := false,
    hasError := false, start := ⟨0, 0⟩, children }

/-- The same node under a field name. -/
def withField (field : Field) (node : Node) : Node :=
  { node with field := some field }

/-- Whether the node itself is an error or a missing token. -/
def isBad (node : Node) : Bool :=
  node.isError || node.isMissing

def isCall (node : Node) : Bool :=
  node.kind = .callExpression

/-- The children that are not mere punctuation. -/
def namedChildren (node : Node) : List Node :=
  node.children.filter (·.named)

/-- The first child known by the field name. -/
def child? (node : Node) (field : Field) : Option Node :=
  node.children.find? (·.field = some field)

/-- The position of the first child known by the field name. -/
def childIndex? (node : Node) (field : Field) : Option Nat :=
  node.children.findIdx? (·.field = some field)

end Node

mutual

/-- The number of nodes of a tree. -/
def Node.size : Node → Nat
  | ⟨_, _, _, _, _, _, _, _, children⟩ => 1 + Node.sizes children

/-- The number of nodes of a forest. -/
def Node.sizes : List Node → Nat
  | [] => 0
  | node :: rest => node.size + Node.sizes rest

end

theorem Node.size_eq (node : Node) : node.size = 1 + Node.sizes node.children := by
  cases node
  rfl

theorem Node.size_le_sizes {node : Node} {forest : List Node} (member : node ∈ forest) :
    node.size ≤ sizes forest := by
  induction forest with
  | nil => cases member
  | cons head tail ih =>
    rcases List.mem_cons.mp member with rfl | later
    · simp [sizes]
    · have := ih later
      simp only [sizes]
      omega

theorem Node.size_lt_of_child? {node child : Node} {field : Field}
    (found : node.child? field = some child) : child.size < node.size := by
  have := size_le_sizes (List.mem_of_find?_eq_some found)
  rw [size_eq node]
  omega

end TestFlow.Syntax

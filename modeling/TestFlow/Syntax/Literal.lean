import TestFlow.Syntax.Node

/-! # Literals and calls

Reading the shapes that carry literal text: strings, regular expressions, members, properties of
objects, and the arguments of calls. Nothing is evaluated: a shape that is not literal has no value.
-/

namespace TestFlow.Syntax.Node

/-- What a call calls. -/
def callee? (call : Node) : Option Node :=
  call.child? .function

/-- The arguments of a call, comments left out. A template in the place of the argument list holds no
arguments. -/
def callArguments (call : Node) : List Node :=
  match call.child? .arguments with
  | none => []
  | some list =>
    if list.kind = .arguments then list.namedChildren.filter (·.kind ≠ .comment) else []

/-- The property a member names; computed access names none. -/
def memberProperty? (member : Node) : Option String :=
  (member.child? .property).map (·.text)

/-- The character an escape stands for, if it is one of the common ones; any other escape, such as a
number or a line continuation, keeps its source form. -/
def decodeEscape : String → String
  | "\\n" => "\n"
  | "\\t" => "\t"
  | "\\r" => "\r"
  | "\\0" => "\x00"
  | "\\'" => "'"
  | "\\\"" => "\""
  | "\\`" => "`"
  | "\\\\" => "\\"
  | source => source

/-- The text a part of a string literal stands for. -/
def literalPart (part : Node) : String :=
  if part.kind = .escapeSequence then decodeEscape part.text else part.text

/-- Whether the node is written as a string. -/
def isStringLike (node : Node) : Bool :=
  node.kind = .string || node.kind = .templateString

/-- The value of a string literal. A template counts only if nothing is substituted in it; any other
node is no string literal. -/
def stringValue? (node : Node) : Option String :=
  if node.isStringLike && !node.namedChildren.any (·.kind = .templateSubstitution) then
    some (.join (node.namedChildren.map literalPart))
  else none

theorem isStringLike_of_stringValue? {node : Node} {text : String} (found : node.stringValue? = some text) :
    node.kind = .string ∨ node.kind = .templateString := by
  unfold stringValue? at found
  split at found
  · rename_i literal
    simpa [isStringLike] using (Bool.and_eq_true_iff.mp literal).1
  · cases found

/-- The text of the child known by a field name; nothing if there is no such child. -/
def fieldText (node : Node) (field : Field) : String :=
  ((node.child? field).map (·.text)).getD ""

/-- A regular expression as it is written. -/
def regexText (regex : Node) : String :=
  "/" ++ regex.fieldText .pattern ++ "/" ++ regex.fieldText .flags

/-- The name a key of an object stands for: its own text, or the value of a string literal. -/
def keyName? (key : Node) : Option String :=
  if key.kind = .propertyIdentifier then some key.text else key.stringValue?

/-- Whether the node is a pair of an object with a key of the given name. -/
def isPairNamed (name : String) (node : Node) : Bool :=
  node.kind = .pair && (node.child? .key).bind keyName? = some name

/-- The value of the first pair of that name in an object; the pair may lack a value. -/
def objectProperty? (object : Node) (name : String) : Option Node :=
  (object.namedChildren.find? (isPairNamed name)).bind (·.child? .value)

end TestFlow.Syntax.Node

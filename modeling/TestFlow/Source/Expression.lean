import TestFlow.Source.Function
import TestFlow.Source.Markup

/-! # Expressions

Operands with what is chained onto them, operators before and between operands, arrow functions and
assignments. Operators of one chain are read from left to right without regard to precedence: no reader
of a tree looks at how operators group, only at the operands and at the chain of members and calls that
each of them is.
-/

namespace TestFlow.Source

open Syntax Reader

namespace Grammar

/-- An expression in parentheses. -/
def parenthesized (grammar : Grammar) : Reader Node :=
  branch .parenthesizedExpression do
    symbol "("
    let inner ← grammar.expression
    symbol ")"
    return [inner]

/-- A word that is an operand by itself. -/
def wordOperand : String → Reader Node
  | "this" => nameAs .this
  | "super" => nameAs (.other "super")
  | "true" => nameAs (.other "true")
  | "false" => nameAs (.other "false")
  | "null" => nameAs (.other "null")
  | _ => identifier

/-- `import` as the callee of a call, or with a property of its own. -/
def importOperand : Reader Node := do
  let _ ← trivia
  let start ← here
  let callee ← nameAs (.other "import")
  let ofModule ← took do
    symbol "."
    let _ ← word
  if ofModule then
    branchFrom start (.other "meta_property") []
  else
    let called ← ahead (symbol "(")
    require called.isSome
    return callee

/-- The property of `new` that names the constructor called. -/
def newTarget : Reader Node :=
  branch (.other "meta_property") do
    keyword "new"
    symbol "."
    keyword "target"
    return []

/-- An operand that starts with a word. -/
def namedOperand (grammar : Grammar) (found : String) : Reader Node :=
  match found with
  | "function" => grammar.function
  | "class" | "abstract" => grammar.classForm <|> identifier
  | "async" => grammar.function <|> identifier
  | "import" => importOperand
  | "new" => newTarget <|> grammar.creation
  | other => wordOperand other

/-- A private name, which stands alone only where an object is asked for it. -/
def privateOperand : Reader Node := do
  let name ← privateName
  let asking ← ahead (keyword "in")
  require asking.isSome
  return name

/-- An operand without what is chained onto it. -/
def operand (grammar : Grammar) : Reader Node := do
  let _ ← trivia
  match ← peek with
  | none => refuse
  | some '(' => grammar.parenthesized
  | some '[' => grammar.array
  | some '{' => grammar.object
  | some '`' => grammar.template
  | some '/' => regexLiteral
  | some '<' => grammar.markup
  | some '#' => privateOperand
  | some '@' => grammar.classForm
  | some _ =>
    match ← ahead word with
    | some found => grammar.namedOperand found
    | none => stringLiteral <|> numberLiteral

/-- The name of a member. -/
def memberName : Reader Node := do
  return (← nameAs .propertyIdentifier <|> privateName).withField .property

/-- A member of the object so far. -/
def memberOf (start : Cursor) (object : Node) : Reader Node := do
  let name ← memberName
  branchFrom start .memberExpression [object.withField .object, name]

/-- An element of the object so far, by an expression in brackets. -/
def elementOf (grammar : Grammar) (start : Cursor) (object : Node) : Reader Node := do
  symbol "["
  let index ← grammar.expression
  symbol "]"
  branchFrom start (.other "subscript_expression") [object.withField .object, index]

/-- A call of the callee so far. -/
def callOf (grammar : Grammar) (start : Cursor) (callee : Node) : Reader Node := do
  let generics ← maybe grammar.typeArguments
  let list ← grammar.arguments
  branchFrom start .callExpression
    (callee.withField .function :: generics.toList ++ [list.withField .arguments])

/-- A call of the callee so far with a template. -/
def taggedBy (grammar : Grammar) (start : Cursor) (callee : Node) : Reader Node := do
  let _ ← trivia
  let template ← grammar.template
  branchFrom start .callExpression
    [callee.withField .function, template.withField .arguments]

/-- Types given to the operand so far without calling it. An expression cannot go on behind them with
another operand. -/
def instantiated (grammar : Grammar) (start : Cursor) (operand : Node) : Reader Node := do
  let types ← grammar.typeArguments
  notAhead operandStart
  branchFrom start (.other "instantiation_expression") [operand, types]
where
  operandStart : Reader Unit := do
    sameLine
    let _ ← trivia
    let _ ← one fun c =>
      startsName c || c.isDigit || ['\\', '"', '\'', '`', '(', '[', '{', '<', '>', '+', '-', '!', '~',
        '/'].contains c

/-- What a point, a question mark, a bracket or a template chains onto the operand so far. -/
def chained (grammar : Grammar) (start : Cursor) (operand : Node) : Reader Node := do
  match ← ahead punctuator with
  | some "." => do symbol "."; memberOf start operand
  | some "?." => do
    symbol "?."
    memberOf start operand <|> grammar.elementOf start operand <|> grammar.callOf start operand
  | some "[" => grammar.elementOf start operand
  | some "(" => grammar.callOf start operand
  | some "<" | some "<<" =>
    grammar.callOf start operand <|> grammar.instantiated start operand
  | some "!" => do
    grammar.typed
    sameLine
    symbol "!"
    branchFrom start (.other "non_null_expression") [operand]
  | some _ => refuse
  | none => grammar.taggedBy start operand

/-- What may be chained onto the operand that `new` constructs: members, but no calls. -/
def constructorChained (grammar : Grammar) (start : Cursor) (operand : Node) : Reader Node := do
  match ← ahead punctuator with
  | some "." => do symbol "."; memberOf start operand
  | some "[" => grammar.elementOf start operand
  | _ => refuse

/-- An operand with all that is chained onto it. -/
def chain (grammar : Grammar) : Reader Node := do
  let _ ← trivia
  let start ← here
  let root ← grammar.operand
  grow (grammar.chained start) root

/-- A new object: a constructor that is an operand with members, or itself new, and maybe arguments. -/
def creationForm (grammar : Grammar) : Reader Node :=
  branch (.other "new_expression") do
    keyword "new"
    let start ← (do let _ ← trivia; here)
    let nested ← ahead (keyword "new")
    let built ←
      if nested.isSome then grammar.creation
      else do grow (grammar.constructorChained start) (← grammar.operand)
    let generics ← maybe grammar.typeArguments
    let list ← maybe grammar.arguments
    return built :: generics.toList ++ list.toList

/-- A chain with maybe `++` or `--` behind it on the line. -/
def updated (grammar : Grammar) : Reader Node := do
  let _ ← trivia
  let start ← here
  let operand ← grammar.chain
  let stepped ← took do
    sameLine
    symbolOf ["++", "--"]
  if stepped then branchFrom start (.other "update_expression") [operand] else return operand

/-- An operand behind an operator that is a word. -/
def wordOperated (grammar : Grammar) (kind : String) : Reader Node :=
  branch (.other kind) do
    let _ ← word
    return [← grammar.unary]

/-- An operand with the operators before it. -/
def unaryForm (grammar : Grammar) : Reader Node := do
  match ← ahead (symbolOf ["!", "~", "+", "-", "++", "--", "<"]) with
  | some "<" => asserted <|> grammar.updated
  | some _ => branch (.other "unary_expression") do
    let _ ← punctuator
    return [← grammar.unary]
  | none =>
    match ← ahead word with
    | some "await" => grammar.wordOperated "await_expression"
    | some "typeof" | some "void" | some "delete" => grammar.wordOperated "unary_expression"
    | _ => grammar.updated
where
  asserted : Reader Node := do
    grammar.typed
    require !grammar.language.hasMarkup
    branch (.other "type_assertion") do
      bracket '<'
      let type ← grammar.type
      bracket '>'
      return [type, ← grammar.unary]

/-- Operators between two operands. -/
def binaryOperators : List String :=
  ["+", "-", "*", "/", "%", "**", "==", "!=", "===", "!==", "<", ">", "<=", ">=", "<<", ">>", ">>>",
    "&", "|", "^", "&&", "||", "??"]

/-- One more operator behind what is read so far, with its operand or type. -/
def operated (grammar : Grammar) (start : Cursor) (left : Node) : Reader Node :=
  binary <|> ascribed
where
  binary : Reader Node := do
    let _ ← symbolOf binaryOperators <|> keywordOf ["in", "instanceof"]
    let right ← grammar.unaryForm
    branchFrom start (.other "binary_expression") [left, right]
  ascribed : Reader Node := do
    grammar.typed
    sameLine
    let operator ← keywordOf ["as", "satisfies"]
    let type ← constWord <|> grammar.type
    branchFrom start (.other (operator ++ "_expression")) [left, type]
  constWord : Reader Node := do
    keyword "const"
    return .plain (.other "const") "const" []

/-- Operands with operators before and between them. -/
def operation (grammar : Grammar) : Reader Node := do
  let _ ← trivia
  let start ← here
  let first ← grammar.unaryForm
  grow (grammar.operated start) first

/-- An operation, or a choice between two values by one. -/
def conditional (grammar : Grammar) : Reader Node := do
  let _ ← trivia
  let start ← here
  let condition ← grammar.operation
  let choosing ← took (symbol "?")
  if choosing then
    let yes ← grammar.assignment
    symbol ":"
    let no ← grammar.assignment
    branchFrom start (.other "ternary_expression") [condition, yes, no]
  else
    return condition

/-- The parameters of an arrow function, up to and with the arrow. -/
def arrowHead (grammar : Grammar) : Reader (List Node) := do
  let _ ← took asynchronous
  let head ← single <|> grammar.signature
  symbol "=>"
  return head
where
  asynchronous : Reader Unit := do
    keyword "async"
    sameLine
    let _ ← trivia
    let next ← peek
    require (next.any fun c => startsName c || c = '(' || c = '<')
  single : Reader (List Node) := do
    return [← identifier]

/-- An arrow function behind its head. -/
def arrowFrom (grammar : Grammar) (start : Cursor) (head : List Node) : Reader Node := do
  let braced ← ahead (symbol openBrace)
  let body ← if braced.isSome then grammar.block else grammar.assignment
  branchFrom start (.other "arrow_function") (head ++ [body])

/-- A value handed out by a generator, if any. -/
def yielded (grammar : Grammar) : Reader Node :=
  branch (.other "yield_expression") do
    keyword "yield"
    let value ← maybe do
      sameLine
      let _ ← took (symbol "*")
      grammar.assignment
    return value.toList

/-- Operators that assign. -/
def assignmentOperators : List String :=
  ["=", "+=", "-=", "*=", "/=", "%=", "**=", "<<=", ">>=", ">>>=", "&=", "|=", "^=", "&&=", "||=",
    "??="]

/-- Whether something can be assigned to what is read. For operators that is up to their last operand. -/
def isTarget (node : Node) : Bool :=
  match node.kind with
  | .identifier | .memberExpression | .object | .array | .parenthesizedExpression => true
  | .other name => ["undefined", "subscript_expression", "non_null_expression", "binary_expression",
      "unary_expression", "await_expression", "type_assertion"].contains name
  | _ => false

/-- An arrow function, a value handed out, an assignment, or what assigns nothing. -/
def assignmentForm (grammar : Grammar) : Reader Node := do
  let _ ← trivia
  let start ← here
  match ← maybe grammar.arrowHead with
  | some head => grammar.arrowFrom start head
  | none =>
    grammar.yielded <|> do
      let target ← grammar.conditional
      let assigning ← took (symbolOf assignmentOperators)
      if assigning then
        require (isTarget target)
        branchFrom start (.other "assignment_expression") [target, ← grammar.assignment]
      else
        return target

/-- Assignments separated by commas. -/
def expressionForm (grammar : Grammar) : Reader Node := do
  let _ ← trivia
  let start ← here
  let first ← grammar.assignmentForm
  let rest ← many do
    symbol ","
    grammar.assignment
  if rest.isEmpty then return first
  else branchFrom start (.other "sequence_expression") (first :: rest)

end Grammar

end TestFlow.Source

import TestFlow.Source.Expression

/-! # Statements

A statement is told by its first token. Words that are names elsewhere, such as `type` or `declare`,
open a declaration only if one follows.
-/

namespace TestFlow.Source

open Syntax Reader

namespace Grammar

/-- A variable with maybe a type and an initial value. -/
def declarator (grammar : Grammar) : Reader Node :=
  branch (.other "variable_declarator") do
    let target ← grammar.pattern
    let _ ← took do
      grammar.typed
      symbol "!"
    let type ← grammar.annotation
    let value ← grammar.initializer
    return target :: type ++ value

/-- The word that opens a declaration of variables. `let` is a name of its own unless a variable follows. -/
def variableWord : Reader String := do
  let found ← keywordOf ["var", "let", "const"]
  if found = "let" then
    let next ← ahead (word <|> symbolOf ["[", openBrace])
    require next.isSome
  return found

/-- Variables behind the word that declares them. -/
def declared (grammar : Grammar) : Reader (List Node) := do
  let _ ← variableWord
  someSeparated (symbol ",") grammar.declarator

/-- A declaration of variables up to its end. -/
def variableDeclaration (grammar : Grammar) : Reader Node :=
  branch (.other "lexical_declaration") do
    let found ← grammar.declared
    semicolon
    return found

/-- An expression as a statement. -/
def expressionStatement (grammar : Grammar) : Reader Node :=
  branch (.other "expression_statement") do
    let found ← grammar.expressionForm
    semicolon
    return [found]

/-- A condition or a choice between two statements. -/
def ifStatement (grammar : Grammar) : Reader Node :=
  branch (.other "if_statement") do
    keyword "if"
    let condition ← grammar.parenthesized
    let yes ← grammar.statement
    let hasElse ← took (keyword "else")
    if hasElse then
      return [condition, yes, ← grammar.statement]
    else
      return [condition, yes]

/-- A loop over the items or keys of a value. -/
def loopOverItems (grammar : Grammar) : Reader (List Node) := do
  symbol "("
  let item ← declared <|> grammar.chain
  let link ← keywordOf ["of", "in"]
  let items ← if link = "of" then grammar.assignment else grammar.expression
  symbol ")"
  return item :: [items]
where
  declared : Reader Node :=
    branch (.other "lexical_declaration") do
      let _ ← variableWord
      let target ← grammar.pattern
      return target :: (← grammar.annotation)

/-- A loop with a start, a condition and a step, each of which may be left out. -/
def loopWithStep (grammar : Grammar) : Reader (List Node) := do
  symbol "("
  let start ← grammar.declared <|> optional
  symbol ";"
  let condition ← optional
  symbol ";"
  let step ← optional
  symbol ")"
  return start ++ condition ++ step
where
  optional : Reader (List Node) := do
    return (← maybe grammar.expression).toList

/-- A loop of either kind. -/
def forStatement (grammar : Grammar) : Reader Node :=
  branch (.other "for_statement") do
    keyword "for"
    let _ ← took (keyword "await")
    let head ← grammar.loopOverItems <|> grammar.loopWithStep
    return head ++ [← grammar.statement]

/-- A loop that goes on while a condition holds, tested first or last. -/
def whileStatement (grammar : Grammar) : Reader Node :=
  branch (.other "while_statement") do
    keyword "while"
    let condition ← grammar.parenthesized
    return [condition, ← grammar.statement]

def doStatement (grammar : Grammar) : Reader Node :=
  branch (.other "do_statement") do
    keyword "do"
    let body ← grammar.statement
    keyword "while"
    let condition ← grammar.parenthesized
    let _ ← took (symbol ";")
    return [body, condition]

def withStatement (grammar : Grammar) : Reader Node :=
  branch (.other "with_statement") do
    keyword "with"
    let scope ← grammar.parenthesized
    return [scope, ← grammar.statement]

/-- A choice between cases. -/
def switchStatement (grammar : Grammar) : Reader Node :=
  branch (.other "switch_statement") do
    keyword "switch"
    let value ← grammar.parenthesized
    symbol openBrace
    let cases ← many case
    symbol closeBrace
    return value :: cases
where
  case : Reader Node :=
    branch (.other "switch_case") do
      let label ← labelled <|> unlabelled
      symbol ":"
      let statements ← many grammar.statement
      return label ++ statements
  labelled : Reader (List Node) := do
    keyword "case"
    return [← grammar.expression]
  unlabelled : Reader (List Node) := do
    keyword "default"
    return []

/-- A block whose failures are caught, or which is followed by another in any case. -/
def tryStatement (grammar : Grammar) : Reader Node :=
  branch (.other "try_statement") do
    keyword "try"
    let body ← grammar.block
    let caught ← maybe handler
    let last ← maybe do
      keyword "finally"
      grammar.block
    require (caught.isSome || last.isSome)
    return body :: caught.getD [] ++ last.toList
where
  handler : Reader (List Node) := do
    keyword "catch"
    let failure ← maybe do
      symbol "("
      let target ← grammar.pattern
      let type ← grammar.annotation
      symbol ")"
      return target :: type
    return failure.getD [] ++ [← grammar.block]

/-- A return with maybe a value behind it on the line. -/
def returnStatement (grammar : Grammar) : Reader Node :=
  branch (.other "return_statement") do
    keyword "return"
    let value ← maybe do
      sameLine
      grammar.expression
    semicolon
    return value.toList

/-- A value thrown. -/
def throwStatement (grammar : Grammar) : Reader Node :=
  branch (.other "throw_statement") do
    keyword "throw"
    let value ← grammar.expression
    semicolon
    return [value]

/-- A word with maybe a label behind it on the line. -/
def jumpStatement : Reader Node :=
  branch (.other "jump_statement") do
    let _ ← keywordOf ["break", "continue", "debugger"]
    let _ ← maybe do
      sameLine
      identifier
    semicolon
    return []

/-- A statement with a label before it. -/
def labeledStatement (grammar : Grammar) : Reader Node :=
  branch (.other "labeled_statement") do
    let _ ← identifier
    symbol ":"
    return [← grammar.statement]

/-- A function or a class as a statement. -/
def functionDeclaration (grammar : Grammar) : Reader Node :=
  branch (.other "function_declaration") do
    return [← grammar.function]

def classDeclaration (grammar : Grammar) : Reader Node :=
  branch (.other "class_declaration") do
    return [← grammar.classForm]

/-- A name for a type. -/
def typeAlias (grammar : Grammar) : Reader Node :=
  branch (.other "type_alias_declaration") do
    keyword "type"
    let name ← identifier
    let generics ← maybe grammar.typeParameters
    bracket '='
    let type ← grammar.type
    semicolon
    return name :: generics.toList ++ [type]

/-- An interface. -/
def interface (grammar : Grammar) : Reader Node :=
  branch (.other "interface_declaration") do
    keyword "interface"
    let name ← identifier
    let generics ← maybe grammar.typeParameters
    let bases ← maybe do
      keyword "extends"
      someSeparated (symbol ",") grammar.type
    let members ← grammar.objectType
    return name :: generics.toList ++ bases.getD [] ++ [members]

/-- An enumeration; its members may have values. -/
def enumeration (grammar : Grammar) : Reader Node :=
  branch (.other "enum_declaration") do
    let _ ← took (keyword "const")
    keyword "enum"
    let name ← identifier
    symbol openBrace
    let members ← separated (symbol ",") do
      let member ← grammar.propertyName
      return member :: (← grammar.initializer)
    symbol closeBrace
    return name :: members.flatten

/-- A namespace or a module with its statements, or the declaration of one without. -/
def namespaceDeclaration (grammar : Grammar) : Reader Node :=
  branch (.other "internal_module") do
    let _ ← keywordOf ["namespace", "module"]
    sameLine
    let name ← stringLiteral <|> dotted
    let body ← maybe grammar.block
    if body.isNone then semicolon
    return name :: body.toList
where
  dotted : Reader Node :=
    branch (.other "nested_identifier") do
      let names ← someSeparated (symbol ".") identifier
      return names

/-- A declaration of what is defined elsewhere. -/
def ambientDeclaration (grammar : Grammar) : Reader Node :=
  branch (.other "ambient_declaration") do
    keyword "declare"
    sameLine
    return [← globalScope <|> grammar.statement]
where
  globalScope : Reader Node := do
    keyword "global"
    grammar.block

/-- A declaration that only a language with types has. -/
def typedDeclaration (grammar : Grammar) : Reader Node := do
  grammar.typed
  match ← ahead word with
  | some "type" => grammar.typeAlias
  | some "interface" => grammar.interface
  | some "enum" | some "const" => grammar.enumeration
  | some "namespace" | some "module" => grammar.namespaceDeclaration
  | some "declare" => grammar.ambientDeclaration
  | some "abstract" => grammar.classDeclaration
  | _ => refuse

/-- The attributes of an imported module. -/
def moduleAttributes (grammar : Grammar) : Reader (List Node) := do
  let found ← maybe do
    let _ ← keywordOf ["with", "assert"]
    sameLine
    grammar.object
  return found.toList

/-- The module that names are taken from. -/
def moduleSource (grammar : Grammar) : Reader (List Node) := do
  keyword "from"
  let source ← stringLiteral
  return source :: (← grammar.moduleAttributes)

/-- A name as it is imported or exported: a word, or a string. -/
def moduleName : Reader Node :=
  nameAs .identifier <|> stringLiteral

/-- Names in braces, each maybe under another name, and maybe marked as types. -/
def moduleNames (grammar : Grammar) : Reader (List Node) := do
  symbol openBrace
  let names ← separated (symbol ",") (marked <|> renamed)
  symbol closeBrace
  return names.flatten
where
  renamed : Reader (List Node) := do
    let name ← moduleName
    let other ← maybe do
      keyword "as"
      moduleName
    return name :: other.toList
  marked : Reader (List Node) := do
    grammar.typed
    let _ ← keywordOf ["type", "typeof"]
    let found ← renamed
    let next ← ahead (symbolOf [",", closeBrace])
    require next.isSome
    return found

/-- All names of a module, under one name. -/
def moduleScope : Reader (List Node) := do
  symbol "*"
  keyword "as"
  return [← moduleName]

/-- An import of a module, with maybe names from it. -/
def importDeclaration (grammar : Grammar) : Reader Node :=
  branch (.other "import_statement") do
    keyword "import"
    let found ← plain <|> required <|> taken
    semicolon
    return found
where
  plain : Reader (List Node) := do
    let source ← stringLiteral
    return source :: (← grammar.moduleAttributes)
  required : Reader (List Node) := do
    grammar.typed
    let _ ← took typeWord
    let name ← identifier
    symbol "="
    let value ← requirement <|> dotted
    return [name, value]
  requirement : Reader Node :=
    branch (.other "import_require_clause") do
      keyword "require"
      symbol "("
      let source ← stringLiteral
      symbol ")"
      return [source]
  dotted : Reader Node :=
    branch (.other "nested_identifier") (someSeparated (symbol ".") identifier)
  typeWord : Reader Unit := do
    let _ ← keywordOf ["type", "typeof"]
    let next ← ahead ((do let name ← identifier; require (name.text ≠ "from")) <|> symbolStart)
    require next.isSome
  symbolStart : Reader Unit := do
    let _ ← symbolOf [openBrace, "*"]
  taken : Reader (List Node) := do
    let _ ← took (do grammar.typed; typeWord)
    let default ← maybe identifier
    let both ← if default.isSome then took (symbol ",") else give true
    let names ← if both then moduleScope <|> grammar.moduleNames else give []
    return default.toList ++ names ++ (← grammar.moduleSource)

/-- A declaration. -/
def declaration (grammar : Grammar) : Reader Node := do
  match ← ahead word with
  | none => grammar.classDeclaration
  | some "var" | some "let" => grammar.variableDeclaration
  | some "const" => grammar.typedDeclaration <|> grammar.variableDeclaration
  | some "function" | some "async" => grammar.functionDeclaration
  | some "class" => grammar.classDeclaration
  | some "import" => do
    grammar.typed
    grammar.importDeclaration
  | some _ => grammar.typedDeclaration

/-- A declaration or value that other modules may use, or names handed on. -/
def exportStatement (grammar : Grammar) : Reader Node :=
  branch (.other "export_statement") do
    let decorators ← many grammar.decorator
    keyword "export"
    let found ← default <|> handedOn <|> assigned <|> (return [← grammar.declaration])
    return decorators ++ found
where
  default : Reader (List Node) := do
    keyword "default"
    let found ← declared <|> value
    return [found]
  declared : Reader Node := do
    let next ← ahead (do let _ ← many grammar.decorator; word)
    match next with
    | some "function" => grammar.function
    | some "async" => grammar.function
    | some "class" => grammar.classForm
    | some "abstract" => grammar.classForm
    | some "interface" => do grammar.typed; grammar.interface
    | _ => refuse
  value : Reader Node := do
    let found ← grammar.expression
    semicolon
    return found
  handedOn : Reader (List Node) := do
    let _ ← took do
      grammar.typed
      keyword "type"
      let next ← ahead (symbolOf [openBrace, "*"])
      require next.isSome
    let names ← moduleScope <|> everything <|> grammar.moduleNames
    let source ← maybe grammar.moduleSource
    semicolon
    return names ++ source.getD []
  everything : Reader (List Node) := do
    symbol "*"
    return []
  assigned : Reader (List Node) := do
    grammar.typed
    (do symbol "="; return [← value]) <|> do
      keyword "as"
      keyword "namespace"
      let name ← identifier
      semicolon
      return [name]

/-- A statement that starts with a word. -/
def wordStatement (grammar : Grammar) (found : String) : Reader Node :=
  match found with
  | "if" => grammar.ifStatement
  | "for" => grammar.forStatement
  | "while" => grammar.whileStatement
  | "do" => grammar.doStatement
  | "with" => grammar.withStatement
  | "switch" => grammar.switchStatement
  | "try" => grammar.tryStatement
  | "return" => grammar.returnStatement
  | "throw" => grammar.throwStatement
  | "break" | "continue" | "debugger" => jumpStatement
  | "function" => grammar.functionDeclaration
  | "class" => grammar.classDeclaration
  | "export" => grammar.exportStatement
  | "var" => grammar.variableDeclaration
  | "const" => grammar.typedDeclaration <|> grammar.variableDeclaration
  | "let" => grammar.variableDeclaration <|> named
  | "async" => asynchronous
  | "import" => imported
  | _ => named
where
  named : Reader Node :=
    grammar.typedDeclaration <|> grammar.labeledStatement <|> grammar.expressionStatement
  asynchronous : Reader Node := do
    let declared ← ahead (do keyword "async"; sameLine; keyword "function")
    if declared.isSome then grammar.functionDeclaration else named
  imported : Reader Node := do
    let called ← ahead (do keyword "import"; symbolOf ["(", "."])
    if called.isSome then grammar.expressionStatement else grammar.importDeclaration

/-- A statement of any kind. -/
def statementForm (grammar : Grammar) : Reader Node := do
  let _ ← trivia
  match ← peek with
  | none => refuse
  | some '{' => grammar.block
  | some ';' => leaf (.other "empty_statement") (symbol ";")
  | some '@' => grammar.exportStatement <|> grammar.classDeclaration
  | some _ =>
    match ← ahead word with
    | some found => grammar.wordStatement found
    | none => grammar.expressionStatement

/-- How a form is read over the forms nested in it. -/
def form (grammar : Grammar) : Form → Reader Node
  | .statement => grammar.statementForm
  | .expression => grammar.expressionForm
  | .assignment => grammar.assignmentForm
  | .unary => grammar.unaryForm
  | .creation => grammar.creationForm
  | .pattern => grammar.patternForm
  | .type => grammar.typeForm
  | .typeOperand => grammar.typeOperandForm
  | .markup => grammar.markupForm

end Grammar

end TestFlow.Source

import TestFlow.Source.Pattern

/-! # Types

The types that may annotate a program. They do nothing when it runs, but what they hold is part of the
tree: a type that is taken from a module names it by a call of `import`.
-/

namespace TestFlow.Source

open Syntax Reader

namespace Grammar

/-- An operand of a type, with the operators before it. -/
def typeOperand (grammar : Grammar) : Reader Node :=
  grammar.read .typeOperand

/-- A type annotation, or nothing. -/
def returnType (grammar : Grammar) : Reader (List Node) :=
  grammar.annotation

/-- Names joined by dots, with maybe arguments in angle brackets. -/
def typeName (grammar : Grammar) : Reader Node := do
  branch (.other "type_identifier") do
    let first ← identifier <|> voidWord
    let rest ← many do
      symbol "."
      nameAs (.other "type_identifier")
    let arguments ← maybe grammar.typeArguments
    return first :: rest ++ arguments.toList
where
  voidWord : Reader Node := do
    let found ← keywordOf ["void", "null", "true", "false", "this"]
    return .plain (.other "predefined_type") found []

/-- A module named by a call of `import`, with maybe members of it. -/
def importedType (grammar : Grammar) : Reader Node := do
  let _ ← trivia
  let start ← here
  keyword "import"
  let list ← grammar.arguments
  let call ← branchFrom start .callExpression
    [(Node.plain (.other "import") "import" []).withField .function, list.withField .arguments]
  let named ← grow (member start) call
  let arguments ← maybe grammar.typeArguments
  match arguments with
  | none => return named
  | some list => branchFrom start (.other "generic_type") [named, list]
where
  member (start : Cursor) (object : Node) : Reader Node := do
    symbol "."
    let property ← nameAs .propertyIdentifier
    branchFrom start .memberExpression [object.withField .object, property.withField .property]

/-- The type of a value. -/
def typeQuery (grammar : Grammar) : Reader Node :=
  branch (.other "type_query") do
    keyword "typeof"
    return [← grammar.importedType <|> grammar.typeName]

/-- The separator behind a member of an object type: a mark, or the end of the line or of the type. -/
def memberEnd : Reader Unit :=
  symbol "," <|> semicolon

/-- The signature of a function: type parameters, parameters and the type of its result. -/
def signature (grammar : Grammar) : Reader (List Node) := do
  let generics ← maybe grammar.typeParameters
  let parameters ← grammar.parameters
  let result ← grammar.returnType
  return generics.toList ++ parameters :: result

/-- The key of an index signature or of a mapped type, in brackets. -/
def indexKey (grammar : Grammar) : Reader (List Node) := do
  symbol "["
  let name ← identifier
  let key ← keyed
  symbol "]"
  return name :: key
where
  keyed : Reader (List Node) := do
    let marked ← maybe (symbol ":")
    match marked with
    | some _ => return [← grammar.type]
    | none =>
      keyword "in"
      let source ← grammar.type
      let renamed ← maybe do
        keyword "as"
        grammar.type
      return source :: renamed.toList

/-- A sign before a modifier of a mapped type. -/
def modifierSign : Reader Unit := do
  let _ ← took (symbolOf ["+", "-"])

/-- A member of an object type. -/
def typeMember (grammar : Grammar) : Reader Node :=
  branch (.other "property_signature") do
    modifierSign
    let _ ← many (modifier (parameterModifiers ++ ["get", "set", "static"]))
    let found ← called <|> indexed <|> property
    memberEnd
    return found
where
  called : Reader (List Node) := do
    let _ ← took (keyword "new")
    grammar.signature
  indexed : Reader (List Node) := do
    let key ← grammar.indexKey
    modifierSign
    let _ ← took (symbol "?")
    return key ++ (← grammar.annotation)
  property : Reader (List Node) := do
    let name ← grammar.propertyName
    let _ ← took (symbol "?")
    let type ← grammar.signature <|> grammar.annotation
    return name :: type

/-- Members in braces. -/
def objectType (grammar : Grammar) : Reader Node :=
  branch (.other "object_type") do
    symbol openBrace
    let members ← many grammar.typeMember
    symbol closeBrace
    return members

/-- An element of a tuple: maybe named, optional, or standing for the rest. -/
def tupleElement (grammar : Grammar) : Reader Node :=
  branch (.other "tuple_element") do
    let _ ← took (symbol "...")
    let _ ← maybe do
      let _ ← word
      let _ ← took (symbol "?")
      symbol ":"
    let type ← grammar.type
    let _ ← took (symbol "?")
    return [type]

/-- A template with types in it. -/
def templateType (grammar : Grammar) : Reader Node :=
  templateOf (.other "template_literal_type") (.other "template_type") grammar.type

/-- A type that is no operator's. -/
def primaryType (grammar : Grammar) : Reader Node :=
  parenthesized <|> tuple <|> grammar.objectType <|> grammar.templateType <|> literal <|>
    grammar.importedType <|> grammar.typeQuery <|> grammar.typeName
where
  parenthesized : Reader Node :=
    branch (.other "parenthesized_type") do
      symbol "("
      let type ← grammar.type
      symbol ")"
      return [type]
  tuple : Reader Node :=
    branch (.other "tuple_type") do
      symbol "["
      let elements ← separated (symbol ",") grammar.tupleElement
      symbol "]"
      return elements
  literal : Reader Node :=
    branch (.other "literal_type") do
      let _ ← took (symbol "-")
      return [← stringLiteral <|> numberLiteral]

/-- Arrays of a type and types of its members, as often as brackets follow on the line. -/
def indexedType (grammar : Grammar) : Reader Node := do
  let _ ← trivia
  let start ← here
  let root ← grammar.primaryType
  grow (fun element => do
    sameLine
    symbol "["
    let index ← maybe grammar.type
    symbol "]"
    branchFrom start (.other "array_type") (element :: index.toList)) root

/-- An operand of a type. -/
def typeOperandForm (grammar : Grammar) : Reader Node :=
  operated <|> inferred <|> grammar.indexedType
where
  operated : Reader Node :=
    branch (.other "index_type_query") do
      let _ ← keywordOf ["keyof", "unique", "readonly", "asserts"]
      sameLine
      return [← grammar.typeOperand]
  inferred : Reader Node :=
    branch (.other "infer_type") do
      keyword "infer"
      let name ← identifier
      let bound ← maybe do
        keyword "extends"
        let type ← grammar.typeOperand
        notAhead (symbol "?")
        return type
      return name :: bound.toList

/-- Operands joined by bars and ampersands; the first may have one before it as well. -/
def unionType (grammar : Grammar) : Reader Node := do
  let _ ← trivia
  let start ← here
  let led ← took (symbolOf ["|", "&"])
  let first ← grammar.typeOperandForm
  let rest ← many do
    let _ ← symbolOf ["|", "&"]
    grammar.typeOperandForm
  if led || !rest.isEmpty then
    branchFrom start (.other "union_type") (first :: rest)
  else
    return first

/-- The type of a function or a constructor. -/
def functionType (grammar : Grammar) : Reader Node :=
  branch (.other "function_type") do
    let _ ← took (keyword "abstract")
    let _ ← took (keyword "new")
    let generics ← maybe grammar.typeParameters
    let parameters ← grammar.parameters
    symbol "=>"
    let result ← grammar.type
    return generics.toList ++ [parameters, result]

/-- A type: of a function, a union, a choice by a condition, or a statement about a parameter. -/
def typeForm (grammar : Grammar) : Reader Node :=
  grammar.functionType <|> do
    let _ ← trivia
    let start ← here
    let subject ← grammar.unionType
    let stated ← maybe do
      sameLine
      keyword "is"
      grammar.type
    let choice ← maybe do
      keyword "extends"
      let bound ← grammar.functionType <|> grammar.unionType
      symbol "?"
      let yes ← grammar.type
      symbol ":"
      let no ← grammar.type
      return [bound, yes, no]
    match stated, choice with
    | none, none => return subject
    | _, _ =>
      branchFrom start (.other "conditional_type") (subject :: stated.toList ++ choice.getD [])

end Grammar

end TestFlow.Source

import TestFlow.Source.Type

/-! # Functions, objects and classes

Bodies that hold statements, and the members of objects and classes.
-/

namespace TestFlow.Source

open Syntax Reader

namespace Grammar

/-- A function: maybe asynchronous, maybe a generator, maybe named, with its body. Where types may be
written, the body may be missing. -/
def function (grammar : Grammar) : Reader Node :=
  branch (.other "function_expression") do
    let _ ← took do
      keyword "async"
      sameLine
    keyword "function"
    let _ ← took (symbol "*")
    let name ← maybe identifier
    let head ← grammar.signature
    let body ← body
    return name.toList ++ head ++ body
where
  body : Reader (List Node) :=
    (do return [← grammar.block]) <|> do
      grammar.typed
      semicolon
      return []

/-- Parameters and body of a method. -/
def methodRest (grammar : Grammar) : Reader (List Node) := do
  let head ← grammar.signature
  let body ← grammar.block
  return head ++ [body]

/-- A property of an object: a method, a pair of a key and a value, or a name that stands for both. -/
def property (grammar : Grammar) : Reader Node := do
  let _ ← trivia
  let start ← here
  let modifiers ← many (modifier ["async", "get", "set"])
  let star ← took (symbol "*")
  let name ← grammar.propertyName
  let method ← maybe grammar.methodRest
  match method with
  | some rest => branchFrom start (.other "method_definition") (name :: rest)
  | none =>
    require (modifiers.isEmpty && !star)
    let paired ← took (symbol ":")
    if paired then
      let value ← grammar.assignment
      branchFrom start .pair [name.withField .key, value.withField .value]
    else
      require (name.kind = .propertyIdentifier && !reservedWords.contains name.text)
      match ← grammar.initializer with
      | [] => branchFrom start (.other "shorthand_property_identifier") []
      | value => branchFrom start (.other "object_assignment_pattern") (name :: value)

/-- An object. -/
def object (grammar : Grammar) : Reader Node :=
  branch .object do
    symbol openBrace
    let members ← commaList (grammar.spread <|> grammar.property)
    symbol closeBrace
    return members

/-- An array; places may be left out. -/
def array (grammar : Grammar) : Reader Node :=
  branch .array do
    symbol "["
    let elements ← commaList (grammar.spread <|> grammar.assignment)
    symbol "]"
    return elements

/-- Words that modify a member of a class. -/
def memberModifiers (grammar : Grammar) : List String :=
  ["static", "async", "get", "set", "accessor"] ++
    if grammar.language.hasTypes then
      ["public", "private", "protected", "readonly", "override", "abstract", "declare"]
    else []

/-- A member of a class: a block run once, a method, a field, or the signature of an index. -/
def classMember (grammar : Grammar) : Reader Node :=
  separator <|> staticBlock <|> branch (.other "class_member") do
    let decorators ← many grammar.decorator
    let _ ← many (modifier grammar.memberModifiers)
    let _ ← took (symbol "*")
    let found ← index <|> named
    return decorators ++ found
where
  separator : Reader Node :=
    leaf (.other "empty_statement") (symbol ";")
  staticBlock : Reader Node :=
    branch (.other "class_static_block") do
      keyword "static"
      return [← grammar.block]
  index : Reader (List Node) := do
    grammar.typed
    let key ← grammar.indexKey
    let type ← grammar.annotation
    semicolon
    return key ++ type
  named : Reader (List Node) := do
    let name ← grammar.propertyName
    let _ ← took do
      grammar.typed
      symbolOf ["?", "!"]
    let rest ← grammar.methodRest <|> overload <|> field
    return name :: rest
  overload : Reader (List Node) := do
    grammar.typed
    let head ← grammar.signature
    semicolon
    return head
  field : Reader (List Node) := do
    let type ← grammar.annotation
    let value ← grammar.initializer
    semicolon
    return type ++ value

/-- What a class extends and implements. -/
def heritage (grammar : Grammar) : Reader (List Node) := do
  let extended ← maybe do
    keyword "extends"
    let found ← grammar.unary
    let arguments ← maybe grammar.typeArguments
    return found :: arguments.toList
  let implemented ← maybe do
    grammar.typed
    keyword "implements"
    someSeparated (symbol ",") grammar.type
  return extended.getD [] ++ implemented.getD []

/-- A class, maybe named, with its members. -/
def classForm (grammar : Grammar) : Reader Node :=
  branch (.other "class") do
    let decorators ← many grammar.decorator
    let _ ← took do
      grammar.typed
      keyword "abstract"
    keyword "class"
    let name ← maybe do
      notAhead (do keyword "implements"; word)
      identifier
    let generics ← maybe grammar.typeParameters
    let bases ← grammar.heritage
    symbol openBrace
    let members ← many grammar.classMember
    symbol closeBrace
    return decorators ++ name.toList ++ generics.toList ++ bases ++ members

end Grammar

end TestFlow.Source

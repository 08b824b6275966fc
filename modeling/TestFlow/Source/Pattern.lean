import TestFlow.Source.Literal

/-! # Patterns and parameters

What values are bound to: names, and objects and arrays taken apart, with initial values inside them.
Initial values are expressions, so calls can stand in patterns.
-/

namespace TestFlow.Source

open Syntax Reader

namespace Grammar

/-- An expression in brackets that gives a property its name. -/
def computedName (grammar : Grammar) : Reader Node :=
  branch (.other "computed_property_name") do
    symbol "["
    let name ← grammar.assignment
    symbol "]"
    return [name]

/-- The name of a property: a word, a private name, a string, a number or a computed name. -/
def propertyName (grammar : Grammar) : Reader Node :=
  nameAs .propertyIdentifier <|> privateName <|> stringLiteral <|> numberLiteral <|>
    grammar.computedName

/-- All that is left over, behind three dots. -/
def restPattern (grammar : Grammar) : Reader Node :=
  branch (.other "rest_pattern") do
    symbol "..."
    return [← grammar.pattern]

/-- A pattern with maybe an initial value. -/
def patternWithInitial (grammar : Grammar) : Reader Node := do
  let _ ← trivia
  let start ← here
  let target ← grammar.pattern
  match ← grammar.initializer with
  | [] => return target
  | value => branchFrom start (.other "assignment_pattern") (target :: value)

/-- A property taken out of an object: under its own name, or bound to a pattern. -/
def propertyPattern (grammar : Grammar) : Reader Node :=
  branch (.other "pair_pattern") do
    let name ← grammar.propertyName
    let renamed ← took (symbol ":")
    if renamed then
      return [name, ← grammar.patternWithInitial]
    else
      require (name.kind = .propertyIdentifier)
      return name :: (← grammar.initializer)

/-- An object taken apart. -/
def objectPattern (grammar : Grammar) : Reader Node :=
  branch (.other "object_pattern") do
    symbol openBrace
    let properties ← separated (symbol ",") (grammar.restPattern <|> grammar.propertyPattern)
    symbol closeBrace
    return properties

/-- An array taken apart; places may be left out. -/
def arrayPattern (grammar : Grammar) : Reader Node :=
  branch (.other "array_pattern") do
    symbol "["
    let elements ← commaList (grammar.restPattern <|> grammar.patternWithInitial)
    symbol "]"
    return elements

/-- Something a value can be bound to. -/
def patternForm (grammar : Grammar) : Reader Node :=
  grammar.objectPattern <|> grammar.arrayPattern <|> identifier

/-- A decorator: a name, maybe with members and maybe called. -/
def decorator (grammar : Grammar) : Reader Node :=
  branch (.other "decorator") do
    symbol "@"
    let _ ← trivia
    let start ← here
    let root ← nameAs .identifier
    let chain ← grow (member start) root
    let called ← maybe (call start chain)
    return [called.getD chain]
where
  member (start : Cursor) (object : Node) : Reader Node := do
    symbol "."
    let property ← nameAs .propertyIdentifier
    branchFrom start .memberExpression [object.withField .object, property.withField .property]
  call (start : Cursor) (callee : Node) : Reader Node := do
    let _ ← maybe grammar.typeArguments
    let list ← grammar.arguments
    branchFrom start .callExpression [callee.withField .function, list.withField .arguments]

/-- A word that modifies what follows it. Where nothing that could be modified follows, the word is a name
of its own. -/
def modifier (words : List String) : Reader String := do
  let found ← keywordOf words
  let next ← ahead (nameStart <|> symbolOf ["[", "*", "#"])
  require next.isSome
  return found
where
  nameStart : Reader String := do
    let _ ← trivia
    let first ← one fun c => startsName c || c = '\'' || c = '"' || c.isDigit
    return first.toString

/-- Words that say how a parameter is kept as a member. -/
def parameterModifiers : List String :=
  ["public", "private", "protected", "readonly", "override"]

/-- A parameter of a function. -/
def parameter (grammar : Grammar) : Reader Node :=
  branch (.other "parameter") do
    let decorators ← many grammar.decorator
    let _ ← many do
      grammar.typed
      modifier parameterModifiers
    let bound ← grammar.restPattern <|> grammar.pattern <|> receiver
    let _ ← took do
      grammar.typed
      symbol "?"
    let type ← grammar.annotation
    let value ← grammar.initializer
    return decorators ++ bound :: type ++ value
where
  receiver : Reader Node := do
    grammar.typed
    keyword "this"
    return .plain .this "this" []

/-- Parameters in parentheses. -/
def parameters (grammar : Grammar) : Reader Node :=
  branch (.other "formal_parameters") do
    symbol "("
    let found ← separated (symbol ",") grammar.parameter
    symbol ")"
    return found

/-- The parameters of types in angle brackets, each with maybe a bound and a default. -/
def typeParameters (grammar : Grammar) : Reader Node := do
  grammar.typed
  branch (.other "type_parameters") do
    bracket '<'
    let found ← someSeparated (symbol ",") typeParameter
    let _ ← took (symbol ",")
    bracket '>'
    return found
where
  typeParameter : Reader Node :=
    branch (.other "type_parameter") do
      let _ ← many (variance <|> keyword "const")
      let name ← nameAs (.other "type_identifier")
      let bound ← maybe (do keyword "extends"; grammar.type)
      let default ← maybe (do bracket '='; grammar.type)
      return name :: bound.toList ++ default.toList
  variance : Reader Unit := do
    let _ ← keywordOf ["in", "out"]
    let next ← ahead word
    require next.isSome

end Grammar

end TestFlow.Source

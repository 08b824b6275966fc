import TestFlow.Source.Literal

/-! # Markup in expressions

Elements such as `<App url={f()}>text</App>`. Their attributes and contents can hold expressions in
braces; the text between is passed over.
-/

namespace TestFlow.Source

open Syntax Reader

namespace Grammar

/-- A name of an element or an attribute, which may hold hyphens, and dots or colons between its parts. -/
def markupName : Reader Unit := do
  part
  let _ ← many do
    let _ ← symbolOf [".", ":"]
    part
where
  part : Reader Unit := do
    let _ ← trivia
    let first ← peek
    require (first.any startsName)
    let _ ← someRun fun c => continuesName c || c = '-'

/-- An expression in braces; nothing, or only a comment, may stand there as well. -/
def markupBraces (grammar : Grammar) : Reader (List Node) := do
  symbol openBrace
  let found ← maybe (grammar.spread <|> grammar.expression)
  symbol closeBrace
  return found.toList

/-- A string that may go over lines and has no escapes. -/
def markupString (mark : Char) : Reader Node :=
  branch .string do
    exactly [mark]
    let parts ← many (fragment (· ≠ mark))
    exactly [mark]
    return parts

/-- An attribute of an element. -/
def markupAttribute (grammar : Grammar) : Reader (List Node) :=
  grammar.markupBraces <|> do
    markupName
    let valued ← took (bracket '=')
    if valued then
      grammar.markupBraces <|> do
        return [← markupString '\'' <|> markupString '"' <|> grammar.markup]
    else
      return []

/-- A piece of what an element holds: text, an expression in braces, or an element. -/
def markupContent (grammar : Grammar) : Reader (List Node) :=
  text <|> grammar.markupBraces <|> nested
where
  text : Reader (List Node) := do
    let _ ← someRun fun c => c ≠ '<' && c ≠ '>' && c ≠ '{' && c ≠ '}'
    return []
  nested : Reader (List Node) := do
    notAhead (do bracket '<'; bracket '/')
    return [← grammar.markup]

/-- An element with what it holds, an empty element, or a fragment without a name. -/
def markupForm (grammar : Grammar) : Reader Node := do
  require grammar.language.hasMarkup
  branch (.other "jsx_element") do
    bracket '<'
    (do bracket '>'; held) <|> do
      markupName
      let _ ← maybe grammar.typeArguments
      let attributes ← many grammar.markupAttribute
      let empty ← took (do bracket '/'; bracket '>')
      if empty then
        return attributes.flatten
      else
        bracket '>'
        return attributes.flatten ++ (← held)
where
  held : Reader (List Node) := do
    let contents ← many grammar.markupContent
    bracket '<'
    bracket '/'
    let _ ← maybe markupName
    bracket '>'
    return contents.flatten

end Grammar

end TestFlow.Source

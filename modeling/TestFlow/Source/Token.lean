import TestFlow.Source.Character
import TestFlow.Source.Reader
import TestFlow.Syntax.Node

/-! # Tokens

Tokens are read one at a time, each after the blanks and comments before it, as the reader of an
expression or a statement asks for them: whether a slash divides or opens a regular expression is
known only there. Comments are left out of the tree, for no reader of a tree looks at them.
-/

namespace TestFlow.Source

open Syntax Reader

/-- A run of blanks; tells whether a line ended in it. -/
def blanks : Reader Bool := do
  return (← someRun isBlank).any endsLine

/-- A comment up to the end of its line, which it leaves. -/
def lineComment : Reader Bool := do
  exactly ['/', '/']
  let _ ← run fun c => !endsComment c
  return false

/-- The number of characters up to the end of the first `*/`. -/
def closingMark? : List Char → Option Nat
  | [] => none
  | c :: rest => if ['*', '/'].isPrefixOf (c :: rest) then some 2 else (closingMark? rest).map (· + 1)

/-- A comment up to its closing mark; tells whether a line ended in it. -/
def blockComment : Reader Bool := do
  exactly ['/', '*']
  let start ← here
  match closingMark? start.rest with
  | none => refuse
  | some length =>
    times length fun _ => true
    return (start.rest.take length).any endsLine

/-- Blanks and comments; tells whether a line ended in them. A comment left open is refused. -/
def trivia : Reader Bool := do
  let lineEnds ← many (blanks <|> lineComment <|> blockComment)
  notAhead (exactly ['/', '*'])
  return lineEnds.any id

/-- Go on only if the next token is on the same line. -/
def sameLine : Reader Unit := do
  let lineEnded ← ahead trivia
  require (lineEnded = some false)

/-- The end of the text, after blanks and comments. -/
def atEnd : Reader Unit := do
  let _ ← trivia
  require (← peek).isNone

/-- A character of a name given by its code point. -/
def nameEscape : Reader Unit := do
  exactly ['\\', 'u']
  times 4 isHexDigit <|> do
    exactly ['{']
    let _ ← someRun isHexDigit
    exactly ['}']

/-- A name or word as it is written. -/
def rawWord : Reader String :=
  taken (many ((do let _ ← someRun continuesName) <|> nameEscape))

/-- The next token, if it is a name or word. -/
def word : Reader String := do
  let _ ← trivia
  let first ← peek
  require (first.any fun c => startsName c || c = '\\')
  let found ← rawWord
  require !found.isEmpty
  return found

/-- A given word. -/
def keyword (expected : String) : Reader Unit := do
  require ((← word) = expected)

/-- One of several words. -/
def keywordOf (expected : List String) : Reader String := do
  let found ← word
  require (expected.contains found)
  return found

/-- Tokens made of punctuation, each before those it begins with. -/
def punctuators : List (List Char) :=
  [">>>=", "...", "===", "!==", "**=", "<<=", ">>=", ">>>", "&&=", "||=", "??=", "=>", "==", "!=",
    "<=", ">=", "&&", "||", "??", "?.", "++", "--", "+=", "-=", "*=", "/=", "%=", "&=", "|=", "^=",
    "**", "<<", ">>", "+", "-", "*", "/", "%", "&", "|", "^", "<", ">", "=", "!", "~", "?", ":", ";",
    ",", ".", "(", ")", "[", "]", "\x7b", "\x7d", "@", "#"].map String.toList

/-- The longest punctuator a text starts with. A question mark before a decimal fraction stands alone. -/
def punctuatorOf? (text : List Char) : Option (List Char) :=
  match text with
  | '?' :: '.' :: c :: _ => if c.isDigit then some ['?'] else some ['?', '.']
  | _ => punctuators.find? (·.isPrefixOf text)

/-- The next token, if it is punctuation. -/
def punctuator : Reader String := do
  let _ ← trivia
  let place ← here
  match punctuatorOf? place.rest with
  | none => refuse
  | some mark =>
    exactly mark
    return .ofList mark

/-- The braces, as texts. -/
def openBrace : String :=
  "\x7b"

def closeBrace : String :=
  "\x7d"

/-- A given punctuator. -/
def symbol (expected : String) : Reader Unit := do
  require ((← punctuator) = expected)

/-- One of several punctuators. -/
def symbolOf (expected : List String) : Reader String := do
  let mark ← punctuator
  require (expected.contains mark)
  return mark

/-- A single character as a token of its own, whatever follows it; angle brackets around types close so. -/
def bracket (expected : Char) : Reader Unit := do
  let _ ← trivia
  exactly [expected]

/-- The end of a statement: a semicolon, or none before a closing brace, at the end of the text, or
where a new line starts. -/
def semicolon : Reader Unit :=
  symbol ";" <|> do
    let place ← here
    let lineEnded ← trivia
    let next ← peek
    require (lineEnded || next.isNone || next = some '}')
    stay place
where
  /-- Go back to a place. -/
  stay (place : Cursor) : Reader Unit := fun _ => some ((), place)

/-- A leaf of the tree: the characters that a reader takes, without blanks before it. -/
def leaf (kind : Kind) (reader : Reader Unit) : Reader Node := do
  let _ ← trivia
  return .plain kind (← taken reader) []

/-- A node over all that a reader of its children takes, without blanks before it. -/
def branch (kind : Kind) (children : Reader (List Node)) : Reader Node := do
  let _ ← trivia
  let start ← here
  let found ← children
  return .plain kind (start.textTo (← here)) found

/-- A node from an earlier place up to here. -/
def branchFrom (start : Cursor) (kind : Kind) (children : List Node) : Reader Node := do
  return .plain kind (start.textTo (← here)) children

/-- A name that is no reserved word. -/
def identifier : Reader Node := do
  let found ← word
  require !reservedWords.contains found
  return .plain (if found = "undefined" then .other found else .identifier) found []

/-- Any word, as a name of the given kind. -/
def nameAs (kind : Kind) : Reader Node := do
  return .plain kind (← word) []

/-- A name that only its class knows. -/
def privateName : Reader Node :=
  leaf (.other "private_property_identifier") do
    exactly ['#']
    require !(← rawWord).isEmpty

end TestFlow.Source

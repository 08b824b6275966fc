import TestFlow.Source.Language
import TestFlow.Source.Token

/-! # Grammars

The forms of the languages refer to each other in circles. Each form is therefore written over a
`Grammar` that reads the forms nested in it, and one function of the nesting depth ties the circles
later.
-/

namespace TestFlow.Source

open Syntax

/-- The forms that nest in others. -/
inductive Form where
  | statement
  | expression
  | assignment
  | unary
  | creation
  | pattern
  | type
  | typeOperand
  | markup
deriving DecidableEq, Repr

/-- A language, and how the forms nested in the one being read are read. -/
structure Grammar where
  language : Language
  read : Form → Reader Node

namespace Grammar

open Reader

def statement (grammar : Grammar) : Reader Node :=
  grammar.read .statement

def expression (grammar : Grammar) : Reader Node :=
  grammar.read .expression

def assignment (grammar : Grammar) : Reader Node :=
  grammar.read .assignment

def unary (grammar : Grammar) : Reader Node :=
  grammar.read .unary

def creation (grammar : Grammar) : Reader Node :=
  grammar.read .creation

def pattern (grammar : Grammar) : Reader Node :=
  grammar.read .pattern

def type (grammar : Grammar) : Reader Node :=
  grammar.read .type

def markup (grammar : Grammar) : Reader Node :=
  grammar.read .markup

/-- Go on only where types may be written. -/
def typed (grammar : Grammar) : Reader Unit :=
  require grammar.language.hasTypes

/-- A type behind a colon, where types may be written. -/
def annotation (grammar : Grammar) : Reader (List Node) := do
  let found ← maybe do
    grammar.typed
    symbol ":"
    grammar.type
  return found.toList

/-- An initial value behind an equals sign, if there is one. -/
def initializer (grammar : Grammar) : Reader (List Node) := do
  let found ← maybe (symbol "=")
  match found with
  | none => return []
  | some _ => return [← grammar.assignment]

/-- Types in angle brackets. -/
def typeArguments (grammar : Grammar) : Reader Node := do
  grammar.typed
  branch (.other "type_arguments") do
    bracket '<'
    let types ← someSeparated (symbol ",") grammar.type
    bracket '>'
    return types

/-- Pieces separated by commas, in which places may be left out. -/
def commaList {α : Type} (piece : Reader α) : Reader (List α) := do
  let first ← maybe piece
  let rest ← many do
    symbol ","
    maybe piece
  return (first :: rest).filterMap id

/-- All items of a value, behind three dots. -/
def spread (grammar : Grammar) : Reader Node :=
  branch (.other "spread_element") do
    symbol "..."
    return [← grammar.assignment]

/-- Arguments in parentheses. -/
def arguments (grammar : Grammar) : Reader Node :=
  branch .arguments do
    symbol "("
    let found ← commaList (grammar.spread <|> grammar.assignment)
    symbol ")"
    return found

/-- Statements in braces. -/
def block (grammar : Grammar) : Reader Node :=
  branch (.other "statement_block") do
    symbol openBrace
    let statements ← many grammar.statement
    symbol closeBrace
    return statements

end Grammar

end TestFlow.Source

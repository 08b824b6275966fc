import TestFlow.Source.Statement

/-! # Programs

A program is a list of statements up to the end of the text. Forms nest only as deep as the text is
long, so a bound taken from its length reads every program. A text that is none has no tree of its own: where
its fault is remains untold.
-/

namespace TestFlow.Source

open Syntax Reader

/-- Read a form with at most so many forms nested in each other. -/
def readWithin (language : Language) : Nat → Form → Reader Node
  | 0, _ => refuse
  | depth + 1, form => Grammar.form ⟨language, readWithin language depth⟩ form

/-- The line that names an interpreter. -/
def interpreterLine : Reader Unit := do
  exactly ['#', '!']
  let _ ← run fun c => !endsComment c

/-- A whole text as a program. -/
def program (language : Language) (depth : Nat) : Reader Node := do
  let _ ← trivia
  let _ ← took interpreterLine
  let statements ← many (readWithin language depth .statement)
  atEnd
  return .plain (.other "program") "" statements

/-- How deep forms can nest in a text: no form is entered more often than four times at one place. -/
def depthBound (text : List Char) : Nat :=
  4 * (text.length + 4)

/-- What stands for a text that is no program: one bad node. -/
def malformed : Node :=
  { Node.plain (.other "ERROR") "" [] with isError := true, hasError := true }

/-- The tree of a source text. A text with a NUL in it is no source. -/
def parse (language : Language) (text : String) : Node :=
  let characters := text.toList
  let tree :=
    if characters.contains '\x00' then none
    else program language (depthBound characters) (.ofList characters)
  match tree with
  | some (root, _) => root
  | none => malformed

end TestFlow.Source

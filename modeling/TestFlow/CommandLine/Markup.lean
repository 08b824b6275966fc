import TestFlow.CommandLine.Console

/-! # A console without looks

This console reads the tags of its lines and leaves them out. A closing tag has to close an open one. A
backslash before a tag makes the tag plain text, two backslashes before a tag stand for one, and a backslash
before any other bracket is left out.
-/

namespace TestFlow.CommandLine.Markup

/-- Characters that a tag starts with, behind its bracket. -/
def opensTag (c : Char) : Bool :=
  ('a' ≤ c && c ≤ 'z') || c = '#' || c = '/' || c = '@'

/-- A tag at the front of a text, with the backslashes before it. -/
structure Tag where
  slashes : Nat
  body : List Char
  after : List Char
deriving DecidableEq, Repr

/-- The tag a text starts with, if it starts with one. -/
def tag? (text : List Char) : Option Tag :=
  let slashes := (text.takeWhile (· = '\\')).length
  match text.drop slashes with
  | '[' :: c :: rest =>
    let tail := rest.takeWhile fun c => c ≠ ']' && c ≠ '['
    match rest.drop tail.length with
    | ']' :: after => if opensTag c then some ⟨slashes, c :: tail, after⟩ else none
    | _ => none
  | _ => none

/-- Short names of looks, and the names they stand for. -/
def shortNames : List (String × String) :=
  [("b", "bold"), ("d", "dim"), ("i", "italic"), ("u", "underline"), ("r", "reverse"),
    ("c", "conceal"), ("s", "strike"), ("uu", "underline2"), ("o", "overline")]

/-- A text without blanks around it. -/
def trim (text : List Char) : List Char :=
  ((text.dropWhile Char.isWhitespace).reverse.dropWhile Char.isWhitespace).reverse

/-- The name of a look, by which opening and closing tags are matched. -/
def lookName (text : List Char) : String :=
  let name := String.ofList ((trim text).map Char.toLower)
  (shortNames.lookup name).getD name

/-- The name in a tag, before its parameters. -/
def tagName (body : List Char) : List Char :=
  body.takeWhile (· ≠ '=')

/-- The looks that are open behind a tag, where the ones before it were open, newest first. -/
def afterTag (position : Nat) (looks : List String) (body : List Char) :
    Except String (List String) :=
  match tagName body with
  | '/' :: name =>
    if (trim name).isEmpty then
      match looks with
      | [] => .error ("closing tag '[/]' at position " ++ toString position ++ " has nothing to close")
      | _ :: older => .ok older
    else if looks.contains (lookName name) then .ok (looks.erase (lookName name))
    else
      let tag := String.ofList ('[' :: body ++ [']'])
      .error ("closing tag '" ++ tag ++ "' at position " ++ toString position ++ " doesn't match any open tag")
  | name => .ok (lookName name :: looks)

/-- What is shown of a text that starts at a position, with the looks open there; the bound is the number
of steps left. -/
def renderFrom : Nat → Nat → List String → List Char → Except String (List Char)
  | 0, _, _, text => .ok text
  | _, _, _, [] => .ok []
  | bound + 1, position, looks, c :: rest =>
    match tag? (c :: rest) with
    | some tag =>
      let shown := List.replicate (tag.slashes / 2) '\\'
      let next := position + tag.slashes + tag.body.length + 2
      if tag.slashes % 2 = 1 then do
        let later ← renderFrom bound next looks tag.after
        return shown ++ '[' :: tag.body ++ ']' :: later
      else do
        let looks ← afterTag (position + tag.slashes) looks tag.body
        let later ← renderFrom bound next looks tag.after
        return shown ++ later
    | none => do
      let later ← renderFrom bound (position + 1) looks rest
      return if c = '\\' && rest.head? = some '[' then later else c :: later

/-- Characters that a console does not show: bell, backspace, vertical tab, form feed, carriage return. -/
def isUnshown (c : Char) : Bool :=
  c = '\x07' || c = '\x08' || c = '\x0b' || c = '\x0c' || c = '\r'

/-- Tabs as blanks up to the next column that eight divides. -/
def expandTabs (column : Nat) : List Char → List Char
  | [] => []
  | '\t' :: rest =>
    let width := 8 - column % 8
    List.replicate width ' ' ++ expandTabs (column + width) rest
  | '\n' :: rest => '\n' :: expandTabs 0 rest
  | c :: rest => c :: expandTabs (column + 1) rest

/-- What is shown of a text with markup. -/
def render (text : String) : Except String String := do
  let shown ← renderFrom text.toList.length 0 [] text.toList
  return .ofList (expandTabs 0 (shown.filter fun c => !isUnshown c))

/-- A text with its tags made plain: the backslashes before a tag are doubled and one is added. -/
def escapeFrom : Nat → List Char → List Char
  | 0, text => text
  | _, [] => []
  | bound + 1, c :: rest =>
    match tag? (c :: rest) with
    | some tag =>
      List.replicate (2 * tag.slashes + 1) '\\' ++ '[' :: tag.body ++ ']' :: escapeFrom bound tag.after
    | none => c :: escapeFrom bound rest

/-- A text made to be shown as it is. A single backslash at its end is doubled. -/
def escape (text : String) : String :=
  let escaped := escapeFrom text.toList.length text.toList
  let lone := match escaped.reverse with
    | '\\' :: '\\' :: _ => false
    | '\\' :: _ => true
    | _ => false
  .ofList (if lone then escaped ++ ['\\'] else escaped)

/-- The console that shows lines without their tags, and all other texts as they are. -/
def console : Console :=
  ⟨render, escape, .ok⟩

end TestFlow.CommandLine.Markup

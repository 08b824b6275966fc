import TestFlow.Text.Quoted

/-! # Templates

A template is a text with directives. A directive is a percent sign, maybe the name of a value in brackets, flags, a
width, a precision, and last a letter that says how the value is shown. Two percent signs stand for one. A directive
without a name shows all values at once, but only until a value is shown or named. A star in the place of a width or
a precision takes the value for it.
-/

namespace TestFlow.Text.Template

/-- A value that can be filled in. The value for no counts as the number zero. -/
inductive Value where
  | words (text : String)
  | nothing
  | no
  | object (type shown : String)
deriving DecidableEq, Repr, Inhabited

def Value.type : Value → String
  | .words _ => "str"
  | .nothing => "NoneType"
  | .no => "bool"
  | .object type _ => type

def Value.shown : Value → String
  | .words text => text
  | .nothing => "None"
  | .no => "False"
  | .object _ shown => shown

/-- A value as it is shown among others. -/
def Value.quoted : Value → String
  | .words text => Text.quoted text
  | value => value.shown

/-- Why a template cannot be filled in. -/
inductive Problem where
  | openName
  | unknownName (name : String)
  | noValue
  | starWithoutNumber
  | widthTooBig
  | precisionTooBig
  | precisionTooLarge
  | cutOff
  | unknownLetter (letter : Char) (position : Nat)
  | noNumber (letter : Char) (type : String)
  | noWholeNumber (letter : Char) (type : String)
  | noDecimal (type : String)
  | noCharacter
deriving DecidableEq, Repr, Inhabited

/-- A letter that is unknown, as far as it has a shape in ASCII. -/
def plainLetter (letter : Char) : Char :=
  if 31 ≤ letter.toNat && letter.toNat < 127 then letter else '?'

/-- The wording of a problem. -/
def Problem.message : Problem → String
  | .openName => "incomplete format key"
  | .unknownName name => Text.quoted name
  | .noValue => "not enough arguments for format string"
  | .starWithoutNumber => "* wants int"
  | .widthTooBig => "width too big"
  | .precisionTooBig => "precision too big"
  | .precisionTooLarge => "precision too large"
  | .cutOff => "incomplete format"
  | .unknownLetter letter position =>
    "unsupported format character '" ++ toString (plainLetter letter) ++ "' (0x" ++
      .ofList (Nat.toDigits 16 letter.toNat) ++ ") at index " ++ toString position
  | .noNumber letter type => "%" ++ toString letter ++ " format: a real number is required, not " ++ type
  | .noWholeNumber letter type => "%" ++ toString letter ++ " format: an integer is required, not " ++ type
  | .noDecimal type => "must be real number, not " ++ type
  | .noCharacter => "%c requires int or char"

/-- What stands between the percent sign and the letter of a directive, its name apart. -/
structure Layout where
  toLeft : Bool := false
  hasSign : Bool := false
  hasBlank : Bool := false
  isLong : Bool := false
  hasZeros : Bool := false
  width : Nat := 0
  precision : Option Nat := none
deriving DecidableEq, Repr, Inhabited

/-- Set a flag. -/
def Layout.flag? (layout : Layout) : Char → Option Layout
  | '-' => some { layout with toLeft := true }
  | '+' => some { layout with hasSign := true }
  | ' ' => some { layout with hasBlank := true }
  | '#' => some { layout with isLong := true }
  | '0' => some { layout with hasZeros := true }
  | _ => none

/-- A text with blanks on one side, up to the width. -/
def Layout.pad (layout : Layout) (text : List Char) : List Char :=
  let blanks := List.replicate (layout.width - text.length) ' '
  if layout.toLeft then text ++ blanks else blanks ++ text

/-- The digits of zero behind its point, and the point; a long form keeps the point without digits. -/
def Layout.fraction (layout : Layout) (digits : Nat) : List Char :=
  if digits = 0 && !layout.isLong then [] else '.' :: List.replicate digits '0'

/-- The number zero in a kind of notation: what stands before its digits, and its digits. -/
def Layout.zero (layout : Layout) (letter : Char) : List Char × List Char :=
  let digits := List.replicate (max 1 (layout.precision.getD 1)) '0'
  let places := layout.precision.getD 6
  match letter with
  | 'x' | 'X' | 'o' => (if layout.isLong then ['0', letter] else [], digits)
  | 'e' | 'E' => ([], '0' :: layout.fraction places ++ [letter, '+', '0', '0'])
  | 'f' | 'F' => ([], '0' :: layout.fraction places)
  | 'g' | 'G' => ([], if layout.isLong then '0' :: layout.fraction (max 1 places - 1) else ['0'])
  | _ => ([], digits)

/-- The number zero with its sign, up to the width. -/
def Layout.number (layout : Layout) (letter : Char) : List Char :=
  let (before, digits) := layout.zero letter
  let sign := if layout.hasSign then ['+'] else if layout.hasBlank then [' '] else []
  let front := sign ++ before
  if layout.hasZeros && !layout.toLeft then
    front ++ List.replicate (layout.width - (front ++ digits).length) '0' ++ digits
  else layout.pad (front ++ digits)

/-- A value as text, cut off at the precision. -/
def Layout.words (layout : Layout) (text : String) : List Char :=
  layout.pad (match layout.precision with
    | none => text.toList
    | some precision => text.toList.take precision)

/-- The greatest width, the greatest precision, and the greatest precision of a whole number. -/
def maxWidth : Nat := 0x7fffffffffffffff

def maxPrecision : Nat := 0x7fffffff

def maxWholePrecision : Nat := maxPrecision - 3

/-- A value as a letter asks for it. -/
def Value.show (value : Value) (layout : Layout) (position : Nat) (letter : Char) : Except Problem (List Char) :=
  match letter with
  | 's' => .ok (layout.words value.shown)
  | 'r' => .ok (layout.words value.quoted)
  | 'a' =>
    .ok (layout.words (.ofList (value.quoted.toList.flatMap fun c => if c.toNat < 128 then [c] else escapeByNumber c)))
  | 'i' | 'd' | 'u' =>
    if value ≠ .no then .error (.noNumber letter value.type)
    else if maxWholePrecision < layout.precision.getD 0 then .error .precisionTooLarge
    else .ok (layout.number letter)
  | 'x' | 'X' | 'o' =>
    if value ≠ .no then .error (.noWholeNumber letter value.type)
    else if maxWholePrecision < layout.precision.getD 0 then .error .precisionTooLarge
    else .ok (layout.number letter)
  | 'e' | 'E' | 'f' | 'F' | 'g' | 'G' =>
    if value ≠ .no then .error (.noDecimal value.type) else .ok (layout.number letter)
  | 'c' =>
    match value with
    | .no => .ok (layout.pad ['\x00'])
    | .words text => if text.length = 1 then .ok (layout.pad text.toList) else .error .noCharacter
    | _ => .error .noCharacter
  | _ => .error (.unknownLetter letter position)

/-- How far a directive is read. -/
inductive Stage where
  | outside
  | opened
  | name (depth : Nat) (read : List Char)
  | flags (layout : Layout)
  | width (layout : Layout)
  | point (layout : Layout)
  | precision (layout : Layout)
  | digits (layout : Layout)
  | size (layout : Layout)
  | letter (layout : Layout)
deriving DecidableEq, Repr, Inhabited

/-- How far a template is filled in: the text so far and the value at hand. -/
structure Progress where
  stage : Stage := .outside
  value : Option Value
  filled : List Char := []
deriving DecidableEq, Repr, Inhabited

namespace Progress

variable (progress : Progress)

def goTo (stage : Stage) : Progress :=
  { progress with stage }

/-- Go on with text behind a directive. -/
def write (text : List Char) : Progress :=
  { progress with stage := .outside, filled := progress.filled ++ text }

/-- Take the value at hand as a number. -/
def star (stage : Stage) : Except Problem Progress :=
  match progress.value with
  | none => .error .noValue
  | some .no => .ok { progress with stage, value := none }
  | some _ => .error .starWithoutNumber

def readLetter (layout : Layout) (position : Nat) (c : Char) : Except Problem Progress :=
  match progress.value with
  | none => .error .noValue
  | some value => (value.show layout position c).map fun text => { progress.write text with value := none }

def readSize (layout : Layout) (position : Nat) (c : Char) : Except Problem Progress :=
  if c = 'h' || c = 'l' || c = 'L' then .ok (progress.goTo (.letter layout))
  else progress.readLetter layout position c

def readPoint (layout : Layout) (position : Nat) (c : Char) : Except Problem Progress :=
  if c = '.' then .ok (progress.goTo (.precision { layout with precision := some 0 }))
  else progress.readSize layout position c

/-- One more digit of a number that is not to exceed a bound. -/
def readDigit (number bound : Nat) (problem : Problem) (c : Char) : Except Problem Nat :=
  let longer := number * 10 + (c.toNat - '0'.toNat)
  if bound < longer then .error problem else .ok longer

def readWidth (layout : Layout) (position : Nat) (c : Char) : Except Problem Progress :=
  if c.isDigit then
    (readDigit layout.width maxWidth .widthTooBig c).map fun width => progress.goTo (.width { layout with width })
  else progress.readPoint layout position c

def readPrecision (layout : Layout) (position : Nat) (c : Char) : Except Problem Progress :=
  if c.isDigit then
    (readDigit (layout.precision.getD 0) maxPrecision .precisionTooBig c).map fun precision =>
      progress.goTo (.digits { layout with precision := some precision })
  else progress.readSize layout position c

def readFlags (layout : Layout) (position : Nat) (c : Char) : Except Problem Progress :=
  match layout.flag? c with
  | some layout => .ok (progress.goTo (.flags layout))
  | none => if c = '*' then progress.star (.point layout) else progress.readWidth layout position c

/-- A character of a name; brackets in it are balanced. -/
def readName (values : List (String × Value)) (depth : Nat) (read : List Char) (c : Char) :
    Except Problem Progress :=
  if c = ')' && depth = 0 then
    match values.lookup (.ofList read) with
    | none => .error (.unknownName (.ofList read))
    | some value => .ok { progress with stage := .flags {}, value := some value }
  else
    let depth := if c = '(' then depth + 1 else if c = ')' then depth - 1 else depth
    .ok (progress.goTo (.name depth (read ++ [c])))

/-- Read a character. -/
def read (values : List (String × Value)) (position : Nat) (c : Char) : Except Problem Progress :=
  match progress.stage with
  | .outside => .ok (if c = '%' then progress.goTo .opened else progress.write [c])
  | .opened =>
    if c = '%' then .ok (progress.write ['%'])
    else if c = '(' then .ok (progress.goTo (.name 0 []))
    else progress.readFlags {} position c
  | .name depth read => progress.readName values depth read c
  | .flags layout => progress.readFlags layout position c
  | .width layout => progress.readWidth layout position c
  | .point layout => progress.readPoint layout position c
  | .precision layout =>
    if c = '*' then progress.star (.size layout) else progress.readPrecision layout position c
  | .digits layout => progress.readPrecision layout position c
  | .size layout => progress.readSize layout position c
  | .letter layout => progress.readLetter layout position c

end Progress

/-- Read characters that start at a position. -/
def readFrom (values : List (String × Value)) (progress : Progress) :
    Nat → List Char → Except Problem Progress
  | _, [] => .ok progress
  | position, c :: rest =>
    match progress.read values position c with
    | .error problem => .error problem
    | .ok next => readFrom values next (position + 1) rest

/-- All values at once. -/
def allOf (values : List (String × Value)) : Value :=
  .object "dict" ("\x7b" ++ ", ".intercalate (values.map fun (name, value) => Text.quoted name ++ ": " ++ value.quoted)
    ++ "\x7d")

/-- A template with values filled in. -/
def fill (values : List (String × Value)) (template : String) : Except Problem String :=
  match readFrom values { value := some (allOf values) } 0 template.toList with
  | .error problem => .error problem
  | .ok progress =>
    match progress.stage with
    | .outside => .ok (.ofList progress.filled)
    | .name _ _ => .error .openName
    | _ => .error .cutOff

end TestFlow.Text.Template

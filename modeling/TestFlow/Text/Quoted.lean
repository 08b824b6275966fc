import TestFlow.Text.Hidden

/-! # Quoted text

A text shown in a message stands in single quotes, or in double quotes if it holds a single quote and
no double one. The quote and the backslash are escaped; line feed, carriage return and tab have a
letter each, and other characters without a shape of their own stand as `\x`, `\u` or `\U` and their
code point in two, four or eight small hexadecimal digits.
-/

namespace TestFlow.Text

/-- The last `width` hexadecimal digits of a number, in small letters. -/
def hexDigits : Nat → Nat → List Char
  | 0, _ => []
  | width + 1, n => hexDigits width (n / 16) ++ [Nat.digitChar (n % 16)]

/-- A character by its code point. -/
def escapeByNumber (c : Char) : List Char :=
  if c.toNat ≤ 0xff then '\\' :: 'x' :: hexDigits 2 c.toNat
  else if c.toNat ≤ 0xffff then '\\' :: 'u' :: hexDigits 4 c.toNat
  else '\\' :: 'U' :: hexDigits 8 c.toNat

/-- A character as it stands within the given quotes. -/
def quotedChar (mark : Char) (c : Char) : List Char :=
  if c = mark || c = '\\' then ['\\', c]
  else if c = '\n' then ['\\', 'n']
  else if c = '\r' then ['\\', 'r']
  else if c = '\t' then ['\\', 't']
  else if isHidden c then escapeByNumber c
  else [c]

/-- The quotes a text stands in. -/
def quoteMark (text : List Char) : Char :=
  if '\'' ∈ text ∧ '"' ∉ text then '"' else '\''

/-- A text in quotes. -/
def quoted (text : String) : String :=
  let mark := quoteMark text.toList
  .ofList (mark :: text.toList.flatMap (quotedChar mark) ++ [mark])

end TestFlow.Text

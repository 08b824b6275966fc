/-! # Characters of source text

Which characters are blank, end a line, or make up a name. A name may hold any character that is not
blank, no control character and no ASCII punctuation of the languages.
-/

namespace TestFlow.Source

/-- Characters that end a line as far as statements go. -/
def endsLine (c : Char) : Bool :=
  c = '\n' || c = '\u2028' || c = '\u2029'

/-- Characters that end a line comment. -/
def endsComment (c : Char) : Bool :=
  c = '\r' || endsLine c

/-- Blanks of all kinds between tokens: tabs, line ends, Unicode space separators, and the invisible
characters U+200B, U+2060 and U+FEFF. -/
def isBlank (c : Char) : Bool :=
  ('\t' ≤ c && c ≤ '\r') || c = ' ' || c = '\u00a0' || c = '\u1680' ||
    ('\u2000' ≤ c && c ≤ '\u200b') || c = '\u2028' || c = '\u2029' || c = '\u202f' ||
    c = '\u205f' || c = '\u2060' || c = '\u3000' || c = '\ufeff'

/-- ASCII punctuation that no name holds. -/
def isPunctuation (c : Char) : Bool :=
  [':', ';', '`', '"', '\'', '@', '#', '.', ',', '|', '^', '&', '<', '=', '>', '+', '-', '*', '/',
    '\\', '%', '?', '!', '~', '(', ')', '[', ']', '{', '}'].contains c

/-- Characters a name can go on with. -/
def continuesName (c : Char) : Bool :=
  !(c.val < 0x20 || isBlank c || isPunctuation c)

/-- Characters a name can start with. -/
def startsName (c : Char) : Bool :=
  continuesName c && !c.isDigit

def isHexDigit (c : Char) : Bool :=
  c.isDigit || ('a' ≤ c && c ≤ 'f') || ('A' ≤ c && c ≤ 'F')

def isOctalDigit (c : Char) : Bool :=
  '0' ≤ c && c ≤ '7'

/-- Words of the languages that are no names. -/
def reservedWords : List String :=
  ["break", "case", "catch", "class", "const", "continue", "debugger", "default", "delete", "do",
    "else", "export", "extends", "false", "finally", "for", "function", "if", "import", "in",
    "instanceof", "new", "null", "return", "super", "switch", "this", "throw", "true", "try",
    "typeof", "var", "void", "while", "with"]

end TestFlow.Source

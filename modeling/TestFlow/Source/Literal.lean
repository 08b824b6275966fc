import TestFlow.Source.Grammar

/-! # Literals

Strings, templates, regular expressions and numbers. A string is cut into fragments and escapes; a
template may hold substitutions as well. A raw line end ends no string, so a string that meets one is
refused, and so is an escape that announces hexadecimal digits and does not hold them.
-/

namespace TestFlow.Source

open Syntax Reader

/-- An escape: a backslash with up to three octal digits, with announced hexadecimal digits, with a line
end, or with any other character. -/
def escapeSequence : Reader Node := do
  return .plain .escapeSequence (← taken escape) []
where
  escape : Reader Unit := do
    exactly ['\\']
    octal <|> hexadecimal <|> exactly ['\r', '\n'] <|> other
  octal : Reader Unit := do
    let _ ← one isOctalDigit
    let _ ← took (one isOctalDigit)
    let _ ← took (one isOctalDigit)
  hexadecimal : Reader Unit :=
    (do exactly ['x']; times 2 isHexDigit) <|> nameDigits
  nameDigits : Reader Unit := do
    exactly ['u']
    times 4 isHexDigit <|> do
      exactly ['{']
      let _ ← someRun isHexDigit
      exactly ['}']
  other : Reader Unit := do
    let _ ← one fun c => c ≠ 'x' && c ≠ 'u'

/-- A run of characters that stand for themselves. -/
def fragment (plain : Char → Bool) : Reader Node := do
  return .plain (.other "string_fragment") (.ofList (← someRun plain)) []

/-- Whether a character stands for itself in a string with the given quotes. -/
def standsInString (mark c : Char) : Bool :=
  c ≠ mark && c ≠ '\\' && c ≠ '\n' && c ≠ '\r'

/-- A string in the given quotes. -/
def stringIn (mark : Char) : Reader Node :=
  branch .string do
    exactly [mark]
    let parts ← many (fragment (standsInString mark) <|> escapeSequence)
    exactly [mark]
    return parts

/-- A string in single or double quotes. -/
def stringLiteral : Reader Node :=
  stringIn '\'' <|> stringIn '"'

/-- Characters of a template that stand for themselves up to the next escape, substitution or end. -/
def templateFragment : Reader Node := do
  let text ← taken (many (plain <|> loneDollar))
  require !text.isEmpty
  return .plain (.other "string_fragment") text []
where
  plain : Reader Unit := do
    let _ ← someRun fun c => c ≠ '`' && c ≠ '\\' && c ≠ '$'
  loneDollar : Reader Unit := do
    notAhead (exactly ['$', '{'])
    exactly ['$']

/-- A template whose substitutions hold what the given reader takes. -/
def templateOf (kind substitution : Kind) (inner : Reader Node) : Reader Node :=
  branch kind do
    exactly ['`']
    let parts ← many (templateFragment <|> escapeSequence <|> substituted)
    exactly ['`']
    return parts
where
  substituted : Reader Node :=
    branch substitution do
      exactly ['$', '{']
      let found ← inner
      symbol closeBrace
      return [found]

/-- A template with expressions in it. -/
def Grammar.template (grammar : Grammar) : Reader Node :=
  templateOf .templateString .templateSubstitution grammar.expression

/-- A regular expression: a pattern between slashes, in which a slash within brackets or behind a
backslash does not count, and maybe flags. -/
def regexLiteral : Reader Node :=
  branch .regex do
    exactly ['/']
    let source ← taken (many (characterClass <|> escaped <|> plain))
    require !source.isEmpty
    exactly ['/']
    let flags ← run fun c => c.isAlpha && c.isLower
    let pattern := (Node.plain (.other "regex_pattern") source []).withField .pattern
    return if flags.isEmpty then [pattern] else
      [pattern, (Node.plain (.other "regex_flags") (.ofList flags) []).withField .flags]
where
  escaped : Reader Unit := do
    exactly ['\\']
    let _ ← one (· ≠ '\n')
  plain : Reader Unit := do
    let _ ← one fun c => c ≠ '/' && c ≠ '\\' && c ≠ '[' && c ≠ '\n'
  inClass : Reader Unit := do
    let _ ← one fun c => c ≠ ']' && c ≠ '\\' && c ≠ '\n'
  characterClass : Reader Unit := do
    exactly ['[']
    let _ ← many (escaped <|> inClass)
    exactly [']']

/-- A number: an integer in another base, or a decimal with maybe a fraction and an exponent. -/
def numberLiteral : Reader Node :=
  leaf (.other "number") (based <|> decimal)
where
  digits : Reader Unit := do
    let _ ← someRun fun c => c.isDigit || c = '_'
  based : Reader Unit := do
    exactly ['0']
    let _ ← one fun c => "xXoObB".toList.contains c
    let _ ← someRun fun c => isHexDigit c || c = '_'
    let _ ← took (exactly ['n'])
  fraction : Reader Unit := do
    exactly ['.']
    let _ ← took digits
  exponent : Reader Unit := do
    let _ ← one fun c => c = 'e' || c = 'E'
    let _ ← took (one fun c => c = '+' || c = '-')
    digits
  decimal : Reader Unit := do
    (do digits; let _ ← took fraction) <|> do
      exactly ['.']
      digits
    let _ ← took exponent
    let _ ← took (exactly ['n'])

end TestFlow.Source

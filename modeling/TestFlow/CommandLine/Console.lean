/-! # Consoles

A console shows lines of markup. A tag such as `[bold]` sets how the text behind it looks, up to a closing tag
`[/bold]`, and is not shown itself. What a console makes of a line is its own affair; a program counts on a few
laws only.
-/

namespace TestFlow.CommandLine

/-- A console: what it shows of a text with markup, unless something is wrong with it, how a text is made plain so
that it has no markup, and what is shown of a text as it is. -/
structure Console where
  render : String → Except String String
  escape : String → String
  verbatim : String → Except String String

/-- Whether a line of markup can be shown. -/
def Console.Shows (console : Console) (line : String) : Prop :=
  ∃ shown, console.render line = .ok shown

/-- A title in a look of its own. -/
def styled (look title : String) : String :=
  "[" ++ look ++ "]" ++ title ++ "[/" ++ look ++ "]"

/-- Characters that no tag starts with, not even with backslashes before it. -/
def isPlain (c : Char) : Bool :=
  c ≠ '\\' && c ≠ '['

/-- Whether a text holds neither brackets that open a tag nor backslashes. -/
def isPlainText (text : String) : Bool :=
  text.toList.all isPlain

def isSmallLetter (c : Char) : Bool :=
  'a' ≤ c && c ≤ 'z'

/-- Whether a text is the name of a look: words in small letters. -/
def isLookName (text : String) : Bool :=
  text.toList.head?.any isSmallLetter && text.toList.all fun c => isSmallLetter c || c = ' '

/-- What a program counts on: every character can be shown, and only tags can spoil a line. Words without tags and
titles whose tags match make no difference to what comes behind them. A text that is made plain can be shown, and a
line cannot whose first tag is a closing one, which closes nothing. -/
structure Console.IsLawful (console : Console) : Prop where
  accepts (text : String) : ∃ shown, console.verbatim text = .ok shown
  untagged {text : String} (plain : '[' ∉ text.toList) : console.Shows text
  behind_words {words text : String} (plain : isPlainText words = true) :
    console.Shows (words ++ text) ↔ console.Shows text
  behind_title {look title text : String} (isLook : isLookName look = true) (plain : isPlainText title = true) :
    console.Shows (styled look title ++ text) ↔ console.Shows text
  escaped (text : String) : console.Shows (console.escape text)
  stray {words name rest : String} (plain : isPlainText words = true)
    (isName : '[' ∉ name.toList ∧ ']' ∉ name.toList) : ¬ console.Shows (words ++ "[/" ++ name ++ "]" ++ rest)

end TestFlow.CommandLine

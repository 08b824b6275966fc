/-! # Readers of source text

A reader takes a piece from the front of a text, or refuses. Repetition needs no promise that the
repeated reader consumes anything: it is bounded by what is left of the text.
-/

namespace TestFlow.Source

/-- A place in a text: what is left of it, and how much that is. -/
structure Cursor where
  rest : List Char
  left : Nat
  left_eq : left = rest.length

namespace Cursor

def ofList (text : List Char) : Cursor :=
  ⟨text, text.length, rfl⟩

/-- The place some characters further on. -/
def drop (cursor : Cursor) (count : Nat) : Cursor :=
  ⟨cursor.rest.drop count, cursor.left - count, by simp [cursor.left_eq]⟩

/-- The text from one place to a later one. -/
def textTo (start stop : Cursor) : String :=
  .ofList (start.rest.take (start.left - stop.left))

end Cursor

/-- A reader either gives a value and the place behind it, or refuses. -/
def Reader (α : Type) : Type :=
  Cursor → Option (α × Cursor)

namespace Reader

variable {α β : Type}

def give (value : α) : Reader α :=
  fun cursor => some (value, cursor)

def refuse : Reader α :=
  fun _ => none

def andThen (first : Reader α) (second : α → Reader β) : Reader β :=
  fun cursor =>
    match first cursor with
    | none => none
    | some (value, next) => second value next

/-- The second reader where the first refuses, at the same place. -/
def orElse (first : Reader α) (second : Unit → Reader α) : Reader α :=
  fun cursor =>
    match first cursor with
    | some found => some found
    | none => second () cursor

instance : Monad Reader where
  pure := give
  bind := andThen

instance : OrElse (Reader α) where
  orElse := orElse

/-- The current place. -/
def here : Reader Cursor :=
  fun cursor => some (cursor, cursor)

/-- Go on only if the condition holds. -/
def require (condition : Bool) : Reader Unit :=
  if condition then give () else refuse

/-- What the reader gives, or nothing where it refuses. -/
def maybe (reader : Reader α) : Reader (Option α) :=
  fun cursor =>
    match reader cursor with
    | some (value, next) => some (some value, next)
    | none => some (none, cursor)

/-- Whether the reader takes something or other; read nothing. -/
def took (reader : Reader α) : Reader Bool :=
  fun cursor =>
    match reader cursor with
    | some (_, next) => some (true, next)
    | none => some (false, cursor)

/-- What the reader would give; stay where it stands. -/
def ahead (reader : Reader α) : Reader (Option α) :=
  fun cursor => some ((reader cursor).map (·.1), cursor)

/-- Go on only where the reader refuses. -/
def notAhead (reader : Reader α) : Reader Unit :=
  fun cursor =>
    match reader cursor with
    | some _ => none
    | none => some ((), cursor)

/-- Read at most so many pieces, until the reader refuses or takes nothing. -/
def manyWithin (reader : Reader α) : Nat → Reader (List α)
  | 0 => give []
  | bound + 1 => fun cursor =>
    match reader cursor with
    | none => some ([], cursor)
    | some (value, next) =>
      if next.left < cursor.left then
        (manyWithin reader bound next).map fun (values, stop) => (value :: values, stop)
      else some ([], cursor)

/-- Read pieces until the reader refuses. -/
def many (reader : Reader α) : Reader (List α) :=
  fun cursor => manyWithin reader cursor.left cursor

/-- Grow a value at most so many times, until the step refuses. -/
def growWithin (step : α → Reader α) : Nat → α → Reader α
  | 0, value => give value
  | bound + 1, value => fun cursor =>
    match step value cursor with
    | none => some (value, cursor)
    | some (grown, next) => growWithin step bound grown next

/-- Grow a value until the step refuses. -/
def grow (step : α → Reader α) (value : α) : Reader α :=
  fun cursor => growWithin step cursor.left value cursor

/-- The longest run of characters that qualify, maybe none. -/
def run (qualifies : Char → Bool) : Reader (List Char) :=
  fun cursor =>
    let taken := cursor.rest.takeWhile qualifies
    some (taken, cursor.drop taken.length)

/-- A run of at least one character. -/
def someRun (qualifies : Char → Bool) : Reader (List Char) := do
  let taken ← run qualifies
  require !taken.isEmpty
  return taken

/-- One character that qualifies. -/
def one (qualifies : Char → Bool) : Reader Char :=
  fun cursor =>
    match cursor.rest with
    | [] => none
    | c :: _ => if qualifies c then some (c, cursor.drop 1) else none

/-- Exactly these characters. -/
def exactly (expected : List Char) : Reader Unit :=
  fun cursor =>
    if expected.isPrefixOf cursor.rest then some ((), cursor.drop expected.length) else none

/-- So many characters that qualify. -/
def times (count : Nat) (qualifies : Char → Bool) : Reader Unit :=
  fun cursor =>
    let taken := cursor.rest.take count
    if taken.length = count && taken.all qualifies then some ((), cursor.drop count) else none

/-- The next character. -/
def peek : Reader (Option Char) :=
  fun cursor => some (cursor.rest.head?, cursor)

/-- Pieces with a separator between each two, maybe none; a last separator is taken as well. -/
def separated (separator : Reader Unit) (piece : Reader α) : Reader (List α) := do
  match ← maybe piece with
  | none => return []
  | some first =>
    let rest ← many do
      separator
      piece
    let _ ← took separator
    return first :: rest

/-- Pieces with a separator between each two, at least one. -/
def someSeparated (separator : Reader Unit) (piece : Reader α) : Reader (List α) := do
  let first ← piece
  let rest ← many do
    separator
    piece
  return first :: rest

/-- The text a reader takes. -/
def taken (reader : Reader α) : Reader String := do
  let start ← here
  let _ ← reader
  return start.textTo (← here)

end Reader

end TestFlow.Source

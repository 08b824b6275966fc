import TestFlow.Diagram.Line
import TestFlow.Text.Part

/-! # Reading lines of a diagram

A reader for the four shapes of line that follow the headers: a test opened, a test closed, a node and
an edge. It tells the shapes apart by what stands after the blanks and after the first name, and takes
a label up to the next double quote. It accepts exactly the written forms of lines whose labels hold no
double quote, so that no text is the written form of two of them.
-/

namespace TestFlow.Diagram

open Text

theorem toList_number (number : Nat) : (toString number).toList = Nat.toDigits 10 number := by
  rw [Nat.toString_eq_repr, Nat.toList_repr]

theorem after?_append (beginning rest : List Char) : after? beginning (beginning ++ rest) = some rest :=
  after?_eq_some_iff.mpr rfl

/-- Where a run of wanted characters stops, it is cut off as a whole. -/
theorem cut_append {wanted : Char → Bool} {front rest : List Char} (all : ∀ c ∈ front, wanted c)
    (stops : rest.head?.all (!wanted ·)) :
    (front ++ rest).takeWhile wanted = front ∧ (front ++ rest).dropWhile wanted = rest := by
  rw [List.takeWhile_append_of_pos all, List.dropWhile_append_of_pos all]
  cases rest with
  | nil => simp
  | cons head tail => simp_all

/-- Whether a text starts with something else than a digit, or is empty. -/
def startsPlain (text : List Char) : Bool :=
  text.head?.all (!·.isDigit)

/-- The number a text starts with, in plain decimals, and the rest. -/
def readNumber? (text : List Char) : Option (Nat × List Char) :=
  let digits := text.takeWhile Char.isDigit
  let number := Nat.ofDigitChars 10 digits 0
  if Nat.toDigits 10 number = digits then some (number, text.dropWhile Char.isDigit) else none

theorem readNumber?_eq_some_iff {text rest : List Char} {number : Nat} :
    readNumber? text = some (number, rest) ↔
      text = (toString number).toList ++ rest ∧ startsPlain rest := by
  rw [toList_number]
  constructor
  · intro found
    simp only [readNumber?, Option.ite_none_right_eq_some, Option.some.injEq, Prod.mk.injEq] at found
    obtain ⟨canonical, rfl, rfl⟩ := found
    rw [canonical, List.takeWhile_append_dropWhile]
    refine ⟨rfl, ?_⟩
    have stops := List.head?_dropWhile_not Char.isDigit text
    cases left : text.dropWhile Char.isDigit with
    | nil => rfl
    | cons head tail => simpa [left, startsPlain] using stops
  · rintro ⟨rfl, plain⟩
    have digits : ∀ c ∈ Nat.toDigits 10 number, c.isDigit = true :=
      fun c member => Nat.isDigit_of_mem_toDigits (by decide) (by decide) member
    obtain ⟨taken, left⟩ := cut_append digits plain
    simp only [readNumber?, taken, left, Nat.ofDigitChars_ten_toDigits, ↓reduceIte]

/-- The kind of step that a letter stands for. -/
def kindOfLetter? : Char → Option StepKind
  | 'B' => some .navigate
  | 'C' => some .click
  | 'D' => some .fill
  | 'E' => some .assertion
  | _ => none

theorem kindOfLetter?_eq_some_iff {c : Char} {kind : StepKind} :
    kindOfLetter? c = some kind ↔ (letter kind).toList = [c] := by
  constructor
  · intro found
    unfold kindOfLetter? at found
    split at found <;> cases found <;> rfl
  · intro written
    cases kind <;> cases written <;> rfl

/-- The name of a node that a text starts with, and the rest. -/
def readId? : List Char → Option (NodeId × List Char)
  | [] => none
  | c :: text =>
    match kindOfLetter? c, readNumber? text with
    | some kind, some (number, rest) => some (⟨kind, number⟩, rest)
    | _, _ => none

theorem readId?_eq_some_iff {text rest : List Char} {id : NodeId} :
    readId? text = some (id, rest) ↔ text = id.text.toList ++ rest ∧ startsPlain rest := by
  obtain ⟨kind, number⟩ := id
  rw [NodeId.text, String.toList_append]
  constructor
  · intro found
    unfold readId? at found
    split at found
    · cases found
    · split at found
      · rename_i kind' number' rest' isLetter isNumber
        cases found
        obtain ⟨rfl, plain⟩ := readNumber?_eq_some_iff.mp isNumber
        rw [kindOfLetter?_eq_some_iff.mp isLetter]
        exact ⟨rfl, plain⟩
      · cases found
  · rintro ⟨rfl, plain⟩
    obtain ⟨c, isLetter⟩ : ∃ c, (letter kind).toList = [c] := by cases kind <;> exact ⟨_, rfl⟩
    have isNumber : readNumber? ((toString number).toList ++ rest) = some (number, rest) :=
      readNumber?_eq_some_iff.mpr ⟨rfl, plain⟩
    simp only [isLetter, List.cons_append, List.nil_append, readId?,
      kindOfLetter?_eq_some_iff.mpr isLetter, isNumber]

/-- A label that is ended by a double quote and a closing character. -/
def readLabel? (closing : Char) (text : List Char) : Option String :=
  if text.dropWhile (· != '"') = ['"', closing] then some (.ofList (text.takeWhile (· != '"'))) else none

theorem readLabel?_eq_some_iff {closing : Char} {text : List Char} {label : String} :
    readLabel? closing text = some label ↔
      text = label.toList ++ ['"', closing] ∧ '"' ∉ label.toList := by
  constructor
  · intro found
    simp only [readLabel?, Option.ite_none_right_eq_some, Option.some.injEq] at found
    obtain ⟨closes, rfl⟩ := found
    rw [String.toList_ofList, ← closes, List.takeWhile_append_dropWhile]
    refine ⟨rfl, fun member => ?_⟩
    have kept := List.all_eq_true.mp List.all_takeWhile _ member
    simp at kept
  · rintro ⟨rfl, clean⟩
    have kept : ∀ c ∈ label.toList, (c != '"') = true :=
      fun c member => bne_iff_ne.mpr fun same => clean (same ▸ member)
    have stops : (['"', closing] : List Char).head?.all fun c => !(c != '"') := rfl
    obtain ⟨taken, left⟩ := cut_append kept stops
    simp only [readLabel?, taken, left, ↓reduceIte, String.ofList_toList]

/-- The opening of a test, as it stands after the blanks. -/
def readOpening? (text : List Char) : Option Line :=
  (after? "subgraph T".toList text).bind fun text =>
    (readNumber? text).bind fun (number, text) =>
      (after? " [\"".toList text).bind fun text =>
        (readLabel? ']' text).map fun label => .testStart number label

/-- A node or an edge, as it stands after the blanks. -/
def readItem? (inTest : Bool) (text : List Char) : Option Line :=
  (readId? text).bind fun (id, text) =>
    match after? "(\"".toList text with
    | some text => (readLabel? ')' text).map fun label => .node inTest ⟨id, label⟩
    | none =>
      (after? " --> ".toList text).bind fun text =>
        (readId? text).bind fun (target, text) =>
          if text.isEmpty then some (.edge inTest ⟨id, target⟩) else none

/-- The line that a text is the written form of, if it has one of the four shapes. -/
def Line.ofText? (text : String) : Option Line :=
  (after? (indent false).toList text.toList).bind fun text =>
    match text with
    | 's' :: _ => readOpening? text
    | 'e' :: _ => if text = "end".toList then some .testEnd else none
    | ' ' :: _ => (after? (indent false).toList text).bind (readItem? true)
    | _ => readItem? false text

/-- The four shapes of line that follow the headers. -/
inductive Shape where
  | opening
  | closing
  | node
  | edge
deriving DecidableEq, Repr

/-- The shape of a line; the headers have none. -/
def Line.shape? : Line → Option Shape
  | .theme | .direction => none
  | .testStart _ _ => some .opening
  | .testEnd => some .closing
  | .node _ _ => some .node
  | .edge _ _ => some .edge

/-- The label in a line; a line without one has the empty text. -/
def Line.label : Line → String
  | .testStart _ label => label
  | .node _ declared => declared.label
  | _ => ""

theorem readOpening?_eq_some_iff {text : List Char} {line : Line} :
    readOpening? text = some line ↔
      ∃ number label, line = .testStart number label ∧ '"' ∉ label.toList ∧
        text = (opening (testId number) label).toList := by
  simp only [opening, testId, String.toList_append]
  constructor
  · intro found
    simp only [readOpening?, Option.bind_eq_some_iff, Option.map_eq_some_iff, after?_eq_some_iff,
      readLabel?_eq_some_iff] at found
    obtain ⟨_, rfl, ⟨number, _⟩, isNumber, _, rfl, label, ⟨rfl, clean⟩, rfl⟩ := found
    obtain ⟨rfl, -⟩ := readNumber?_eq_some_iff.mp isNumber
    exact ⟨number, label, rfl, clean, by simp⟩
  · rintro ⟨number, label, rfl, clean, rfl⟩
    have isNumber :
        readNumber? ((toString number).toList ++ (" [\"".toList ++ (label.toList ++ ['"', ']']))) =
          some (number, " [\"".toList ++ (label.toList ++ ['"', ']'])) :=
      readNumber?_eq_some_iff.mpr ⟨rfl, rfl⟩
    simp only [readOpening?, Option.bind_eq_some_iff, Option.map_eq_some_iff, after?_eq_some_iff,
      readLabel?_eq_some_iff]
    exact ⟨_, by simp, (number, _), isNumber, _, rfl, label, ⟨rfl, clean⟩, rfl⟩

theorem readItem?_eq_some_iff {inTest : Bool} {text : List Char} {line : Line} :
    readItem? inTest text = some line ↔
      (∃ id label, line = .node inTest ⟨id, label⟩ ∧ '"' ∉ label.toList ∧
        text = (declaration id.text label).toList) ∨
      (∃ source target, line = .edge inTest ⟨source, target⟩ ∧
        text = (statement source.text target.text).toList) := by
  simp only [declaration, statement, String.toList_append]
  constructor
  · intro found
    simp only [readItem?, Option.bind_eq_some_iff] at found
    obtain ⟨⟨id, rest⟩, isId, found⟩ := found
    obtain ⟨rfl, -⟩ := readId?_eq_some_iff.mp isId
    split at found
    · rename_i labelled opens
      obtain ⟨label, closes, rfl⟩ := Option.map_eq_some_iff.mp found
      obtain ⟨rfl, clean⟩ := readLabel?_eq_some_iff.mp closes
      obtain rfl := after?_eq_some_iff.mp opens
      exact .inl ⟨id, label, rfl, clean, by simp⟩
    · simp only [Option.bind_eq_some_iff, after?_eq_some_iff] at found
      obtain ⟨_, rfl, ⟨target, rest⟩, isTarget, ends⟩ := found
      obtain ⟨rfl, -⟩ := readId?_eq_some_iff.mp isTarget
      simp only [List.isEmpty_iff, Option.ite_none_right_eq_some, Option.some.injEq] at ends
      obtain ⟨rfl, rfl⟩ := ends
      exact .inr ⟨id, target, rfl, by simp⟩
  · rintro (⟨id, label, rfl, clean, rfl⟩ | ⟨source, target, rfl, rfl⟩)
    · have isId : readId? (id.text.toList ++ ("(\"".toList ++ (label.toList ++ ['"', ')']))) =
          some (id, "(\"".toList ++ (label.toList ++ ['"', ')'])) :=
        readId?_eq_some_iff.mpr ⟨rfl, rfl⟩
      have opens : after? "(\"".toList ("(\"".toList ++ (label.toList ++ ['"', ')'])) =
          some (label.toList ++ ['"', ')']) := after?_append _ _
      have closes : readLabel? ')' (label.toList ++ ['"', ')']) = some label :=
        readLabel?_eq_some_iff.mpr ⟨rfl, clean⟩
      have ending : "\")".toList = ['"', ')'] := rfl
      simp only [ending, List.append_assoc, readItem?, isId, Option.bind_some, opens, closes,
        Option.map_some]
    · have isId : readId? (source.text.toList ++ (" --> ".toList ++ target.text.toList)) =
          some (source, " --> ".toList ++ target.text.toList) := readId?_eq_some_iff.mpr ⟨rfl, rfl⟩
      have unlabelled : after? "(\"".toList (" --> ".toList ++ target.text.toList) = none := rfl
      have points : after? " --> ".toList (" --> ".toList ++ target.text.toList) =
          some target.text.toList := after?_append _ _
      have isTarget : readId? target.text.toList = some (target, []) :=
        readId?_eq_some_iff.mpr ⟨(List.append_nil _).symm, rfl⟩
      simp only [List.append_assoc, readItem?, isId, Option.bind_some, unlabelled, points, isTarget,
        List.isEmpty_nil, ↓reduceIte]

/-- A node or an edge stands in its region and is read from there. -/
theorem text_of_readItem? {inTest : Bool} {text : List Char} {line : Line}
    (found : readItem? inTest text = some line) :
    line.text.toList = (indent inTest).toList ++ text ∧ line.shape?.isSome ∧ '"' ∉ line.label.toList := by
  rcases readItem?_eq_some_iff.mp found with ⟨id, label, rfl, clean, rfl⟩ | ⟨source, target, rfl, rfl⟩
  · exact ⟨String.toList_append, rfl, clean⟩
  · exact ⟨String.toList_append, rfl, by simp [Line.label]⟩

/-- Names of nodes start with a letter that no other line starts with. -/
theorem ofText?_item {inTest : Bool} {id : NodeId} {rest : List Char} {text : String}
    (written : text.toList = (indent inTest).toList ++ (id.text.toList ++ rest)) :
    Line.ofText? text = readItem? inTest (id.text.toList ++ rest) := by
  obtain ⟨kind, number⟩ := id
  cases inTest with
  | true =>
    have deeper : (indent true).toList = (indent false).toList ++ (indent false).toList := rfl
    rw [Line.ofText?, written, deeper, List.append_assoc, after?_append]
    change (after? (indent false).toList ((indent false).toList ++ _)).bind (readItem? true) = _
    rw [after?_append]
    rfl
  | false =>
    rw [Line.ofText?, written, after?_append, NodeId.text, String.toList_append, Option.bind_some]
    cases kind <;> simp [letter]

/-- The reader accepts the written forms of lines with a clean label and nothing else. -/
theorem ofText?_eq_some_iff {text : String} {line : Line} :
    Line.ofText? text = some line ↔
      line.text = text ∧ line.shape?.isSome ∧ '"' ∉ line.label.toList := by
  constructor
  · intro found
    simp only [Line.ofText?, Option.bind_eq_some_iff, after?_eq_some_iff] at found
    obtain ⟨rest, indented, found⟩ := found
    rw [← String.toList_inj, indented]
    split at found
    · obtain ⟨number, label, rfl, clean, written⟩ := readOpening?_eq_some_iff.mp found
      refine ⟨?_, rfl, clean⟩
      rw [written, Line.text, String.toList_append]
    · simp only [Option.ite_none_right_eq_some, Option.some.injEq] at found
      obtain ⟨written, rfl⟩ := found
      refine ⟨?_, rfl, by simp [Line.label]⟩
      rw [written, Line.text, String.toList_append]
    · simp only [Option.bind_eq_some_iff, after?_eq_some_iff] at found
      obtain ⟨item, further, found⟩ := found
      rw [further, ← List.append_assoc]
      exact text_of_readItem? found
    · exact text_of_readItem? found
  · rintro ⟨rfl, shaped, clean⟩
    cases line with
    | theme => cases shaped
    | direction => cases shaped
    | testStart number label =>
      have opens : readOpening? (opening (testId number) label).toList = some (.testStart number label) :=
        readOpening?_eq_some_iff.mpr ⟨number, label, rfl, clean, rfl⟩
      rw [Line.ofText?, Line.text, String.toList_append, after?_append]
      simp only [opening, String.toList_append, List.append_assoc] at opens ⊢
      exact opens
    | testEnd => rfl
    | node inTest declared =>
      have isItem : readItem? inTest (declaration declared.id.text declared.label).toList =
          some (.node inTest declared) :=
        readItem?_eq_some_iff.mpr (.inl ⟨declared.id, declared.label, rfl, clean, rfl⟩)
      simp only [declaration, String.toList_append, List.append_assoc] at isItem
      rw [ofText?_item, isItem]
      simp only [Line.text, declaration, String.toList_append, List.append_assoc]
    | edge inTest stated =>
      have isItem : readItem? inTest (statement stated.source.text stated.target.text).toList =
          some (.edge inTest stated) :=
        readItem?_eq_some_iff.mpr (.inr ⟨stated.source, stated.target, rfl, rfl⟩)
      simp only [statement, String.toList_append, List.append_assoc] at isItem
      rw [ofText?_item, isItem]
      simp only [Line.text, statement, String.toList_append, List.append_assoc]

/-- Whether a text is a line of a shape, with a label that holds no double quote. -/
def Shape.Fits (shape : Shape) (text : String) : Prop :=
  ∃ line : Line, line.text = text ∧ line.shape? = some shape ∧ '"' ∉ line.label.toList

theorem Shape.fits_iff {shape : Shape} {text : String} :
    shape.Fits text ↔ (Line.ofText? text).bind Line.shape? = some shape := by
  rw [Option.bind_eq_some_iff]
  constructor
  · rintro ⟨line, written, shaped, clean⟩
    exact ⟨line, ofText?_eq_some_iff.mpr ⟨written, by simp [shaped], clean⟩, shaped⟩
  · rintro ⟨line, found, shaped⟩
    obtain ⟨written, -, clean⟩ := ofText?_eq_some_iff.mp found
    exact ⟨line, written, shaped, clean⟩

instance (shape : Shape) (text : String) : Decidable (shape.Fits text) :=
  decidable_of_iff _ Shape.fits_iff.symm

end TestFlow.Diagram

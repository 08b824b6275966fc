import Mathlib.Data.List.TakeWhile
import TestFlow.Proofs.Diagram.Lifecycle
import TestFlow.Proofs.Diagram.Sharing

/-! # Labels and the ends of lines

A label holds no double quote and no ASCII control character, whatever text it is made from. The other control
characters and the line ends beyond ASCII go through as they are. So a reader that knows every line end finds
the lines of a diagram just if none of the texts drawn in it holds one of those.
-/

namespace TestFlow.Diagram

/-! ## A reader that knows every line end -/

/-- The line ends of ASCII: line feed, vertical tab, form feed, carriage return, and the separators of files,
groups and records. -/
def asciiLineEnds : List Char :=
  ['\n', '\x0b', '\x0c', '\r', '\x1c', '\x1d', '\x1e']

/-- The line ends beyond ASCII: next line, line separator and paragraph separator. -/
def wideLineEnds : List Char :=
  ['\u0085', '\u2028', '\u2029']

/-- Whether a character ends a line. -/
def endsLine (c : Char) : Bool :=
  c ∈ asciiLineEnds || c ∈ wideLineEnds

/-- The lines of a text. A carriage return and a line feed end one line, and a line end at the end of the text
starts no further line. -/
def splitLines : List Char → List (List Char)
  | [] => []
  | '\r' :: '\n' :: rest => [] :: splitLines rest
  | c :: rest =>
    if endsLine c then [] :: splitLines rest
    else
      match splitLines rest with
      | [] => [[c]]
      | line :: later => (c :: line) :: later

/-- The lines of a text as texts. -/
def readLines (text : String) : List String :=
  (splitLines text.toList).map String.ofList

/-- Control characters beyond ASCII. -/
def isWideControl (c : Char) : Bool :=
  0x80 ≤ c.val && c.val ≤ 0x9f

/-- All control characters, in ASCII and beyond. -/
def isAnyControl (c : Char) : Bool :=
  isControl c || isWideControl c

section

variable {text rest front : List Char} {c : Char} {lines : List Line} {line : Line}

theorem splitLines_cons (plain : endsLine c = false) :
    splitLines (c :: rest) = (c :: (splitLines rest).headD []) :: (splitLines rest).tail := by
  have notReturn : c ≠ '\r' := by
    rintro rfl
    revert plain
    decide
  rw [splitLines, if_neg (by simp [plain])]
  · cases splitLines rest <;> rfl
  · exact fun _ same _ => notReturn same

/-- A line feed ends what stands before it. -/
theorem splitLines_line (unbroken : ∀ c ∈ front, endsLine c = false) (rest : List Char) :
    splitLines (front ++ '\n' :: rest) = front :: splitLines rest := by
  induction front with
  | nil => rfl
  | cons c front ih =>
    obtain ⟨plain, later⟩ := List.forall_mem_cons.mp unbroken
    rw [List.cons_append, splitLines_cons plain, ih later]
    rfl

/-- No line holds a line end. -/
theorem not_endsLine_of_mem {part : List Char} (among : part ∈ splitLines text) (member : c ∈ part) :
    endsLine c = false := by
  fun_induction splitLines text generalizing part with
  | case1 => cases among
  | case2 rest ih =>
    rcases List.mem_cons.mp among with rfl | later
    · cases member
    · exact ih later member
  | case3 d rest _ ends ih =>
    rcases List.mem_cons.mp among with rfl | later
    · cases member
    · exact ih later member
  | case4 d rest _ plain last ih =>
    obtain rfl := List.mem_singleton.mp among
    obtain rfl := List.mem_singleton.mp member
    simpa using plain
  | case5 d rest _ plain line later split ih =>
    rcases List.mem_cons.mp among with rfl | among
    · rcases List.mem_cons.mp member with rfl | member
      · simpa using plain
      · exact ih (split ▸ List.mem_cons_self) member
    · exact ih (split ▸ List.mem_cons_of_mem _ among) member

theorem toList_textOf (nonempty : lines ≠ []) :
    (textOf lines).toList = lines.flatMap fun line => line.text.toList ++ ['\n'] := by
  induction lines with
  | nil => contradiction
  | cons line rest ih =>
    cases rest with
    | nil => simp [textOf]
    | cons next rest =>
      have later := ih (List.cons_ne_nil _ _)
      rw [List.flatMap_cons, ← later]
      simp [textOf]

/-- The lines of a written text are the ones it was written from just if none of those is broken. -/
theorem readLines_textOf_iff (nonempty : lines ≠ []) :
    readLines (textOf lines) = lines.map Line.text ↔
      ∀ line ∈ lines, ∀ c ∈ line.text.toList, endsLine c = false := by
  rw [readLines, toList_textOf nonempty]
  clear nonempty
  constructor
  · intro same line among c member
    have written : line.text ∈ lines.map Line.text := List.mem_map_of_mem among
    rw [← same] at written
    obtain ⟨part, inText, rebuilt⟩ := List.mem_map.mp written
    rw [← rebuilt, String.toList_ofList] at member
    exact not_endsLine_of_mem inText member
  · intro unbroken
    induction lines with
    | nil => rfl
    | cons line rest ih =>
      obtain ⟨first, later⟩ := List.forall_mem_cons.mp unbroken
      rw [List.flatMap_cons, List.append_assoc, List.singleton_append, splitLines_line first, List.map_cons,
        ih later, String.ofList_toList, List.map_cons]

/-! ## Characters of a line -/

/-- Whether a character is an ASCII character with a shape, or the blank. -/
def isPrintable (c : Char) : Bool :=
  0x20 ≤ c.val && c.val ≤ 0x7e

def isPrintableText (text : String) : Bool :=
  text.toList.all isPrintable

theorem isPrintable_of_endsLine (ends : endsLine c = true) : isPrintable c = false := by
  have known : c ∈ asciiLineEnds ++ wideLineEnds := by simpa [endsLine] using ends
  have unprintable : (asciiLineEnds ++ wideLineEnds).all (!isPrintable ·) = true := by decide
  simpa using List.all_eq_true.mp unprintable c known

theorem isPrintable_of_digit (digit : c.isDigit = true) : isPrintable c = true := by
  simp only [Char.isDigit, Bool.and_eq_true, decide_eq_true_eq, ge_iff_le, UInt32.le_iff_toNat_le] at digit
  simp only [isPrintable, Bool.and_eq_true, decide_eq_true_eq, UInt32.le_iff_toNat_le]
  have low : '0'.val.toNat = 48 := rfl
  have high : '9'.val.toNat = 57 := rfl
  have blank : (0x20 : UInt32).toNat = 32 := rfl
  have tilde : (0x7e : UInt32).toNat = 126 := rfl
  omega

theorem not_mem_printable {text : String} (plain : isPrintableText text = true)
    (unprintable : isPrintable c = false) : c ∉ text.toList := by
  intro member
  rw [List.all_eq_true.mp plain c member] at unprintable
  cases unprintable

theorem isPrintableText_append (first second : String) :
    isPrintableText (first ++ second) = (isPrintableText first && isPrintableText second) := by
  simp [isPrintableText]

theorem isPrintableText_number (number : Nat) : isPrintableText (toString number) = true := by
  rw [isPrintableText, toList_number, List.all_eq_true]
  exact fun c member => isPrintable_of_digit (Nat.isDigit_of_mem_toDigits (by decide) (by decide) member)

theorem isPrintableText_idText (id : NodeId) : isPrintableText id.text = true := by
  rw [NodeId.text, isPrintableText_append, isPrintableText_number, Bool.and_true]
  cases id.kind <;> decide

theorem isPrintableText_indent (inTest : Bool) : isPrintableText (indent inTest) = true := by
  cases inTest <;> decide

theorem isPrintableText_theme : isPrintableText theme = true := by
  have joined {first second : String} (plain : isPrintableText first = true)
      (plain' : isPrintableText second = true) : isPrintableText (first ++ second) = true := by
    rw [isPrintableText_append, plain, plain', Bool.and_self]
  exact joined (joined (by decide +kernel) (by decide +kernel)) (by decide +kernel)

/-- Around its label a line is printable, whatever the label is. -/
theorem Line.framed (line : Line) :
    ∃ front back, line.text = front ++ line.label ++ back ∧
      isPrintableText front = true ∧ isPrintableText back = true := by
  cases line with
  | theme => exact ⟨Diagram.theme, "", by simp [Line.text, Line.label], isPrintableText_theme, rfl⟩
  | direction => exact ⟨"flowchart TD", "", by simp [Line.text, Line.label], by decide, rfl⟩
  | testStart number label =>
    refine ⟨indent false ++ ("subgraph " ++ testId number ++ " [\""), "\"]", ?_, ?_, by decide⟩
    · simp [Line.text, Line.label, opening, String.append_assoc]
    · simp only [testId, isPrintableText_append, isPrintableText_indent, isPrintableText_number]
      decide
  | testEnd => exact ⟨indent false ++ "end", "", by simp [Line.text, Line.label], by decide, rfl⟩
  | node inTest declared =>
    refine ⟨indent inTest ++ (declared.id.text ++ "(\""), "\")", ?_, ?_, by decide⟩
    · simp [Line.text, Line.label, declaration, String.append_assoc]
    · simp only [isPrintableText_append, isPrintableText_indent, isPrintableText_idText]
      decide
  | edge inTest stated =>
    refine ⟨indent inTest ++ statement stated.source.text stated.target.text, "", ?_, ?_, rfl⟩
    · simp [Line.text, Line.label]
    · simp only [statement, isPrintableText_append, isPrintableText_indent, isPrintableText_idText]
      decide

/-- What is not printable stands in the label. -/
theorem Line.mem_text_iff (unprintable : isPrintable c = false) :
    c ∈ line.text.toList ↔ c ∈ line.label.toList := by
  obtain ⟨front, back, framed, plainFront, plainBack⟩ := line.framed
  simp [framed, not_mem_printable plainFront unprintable, not_mem_printable plainBack unprintable]

theorem Line.mem_text_of_mem_label (member : c ∈ line.label.toList) : c ∈ line.text.toList := by
  obtain ⟨front, back, framed, -⟩ := line.framed
  simp [framed, member]

/-! ## Characters of a label -/

/-- A character beyond ASCII stands in a label just if it stands in the text the label is made from. -/
theorem mem_escapeLabel_iff {text : String} (wide : 0x7f < c.val) :
    c ∈ (escapeLabel text).toList ↔ c ∈ text.toList := by
  have narrow (d : Char) (low : ¬ 0x7f < d.val) : c ≠ d := fun same => low (same ▸ wide)
  have notDouble : c ≠ '"' := narrow '"' (by decide)
  have wanted : isControl c = false := by
    simp only [isControl, Bool.or_eq_false_iff, decide_eq_false_iff_not]
    grind
  rw [toList_escapeLabel]
  constructor
  · intro member
    obtain ⟨softened, -⟩ := (Text.mem_blankRunsFrom member).resolve_left (narrow ' ' (by decide))
    obtain ⟨original, inText, soft⟩ := List.mem_map.mp softened
    unfold softenQuote at soft
    split at soft
    · exact (narrow '\'' (by decide) soft.symm).elim
    · exact soft ▸ inText
  · intro member
    have softened : softenQuote c = c := if_neg notDouble
    exact Text.mem_blankRunsFrom_of_wanted (softened ▸ List.mem_map_of_mem member) wanted

theorem isPrintable_of_wide (wide : 0x7f < c.val) : isPrintable c = false := by
  simp only [isPrintable, Bool.and_eq_false_iff, decide_eq_false_iff_not]
  grind

theorem mem_stepLabel_iff {key : StepKey} (wide : 0x7f < c.val) :
    c ∈ (stepLabel key).toList ↔ c ∈ (stepText key.kind key.target key.value).toList := by
  have plain : isPrintableText (icon key.kind ++ " ") = true := by cases key.kind <;> decide
  have outside : c ∉ (icon key.kind ++ " ").toList := not_mem_printable plain (isPrintable_of_wide wide)
  rw [stepLabel, mem_escapeLabel_iff wide, String.toList_append, List.mem_append, or_iff_right outside]

end

/-! ## Texts of a run -/

/-- The text that an operation has drawn: the name of the test it opens, or its step in words. -/
def Operation.drawnText? (manualPrefix : String) : Operation → Option String
  | .add action =>
    match action.kind with
    | .testStart => some (testLabel manualPrefix action)
    | .step kind => some (stepText kind action.target action.value)
  | .startTest action => some (testLabel manualPrefix action)
  | _ => none

/-- The texts that operations have drawn until the diagram is finished. -/
def drawnTexts (manualPrefix : String) (operations : List Operation) : List String :=
  (operations.takeWhile (· ≠ .finish)).filterMap (Operation.drawnText? manualPrefix)

theorem drawnText?_opened {manualPrefix : String} {operation : Operation} {action : Action}
    (opened : operation.opened? = some action) :
    operation.drawnText? manualPrefix = some (testLabel manualPrefix action) := by
  cases operation with
  | add given =>
    simp only [Operation.opened?, Option.ite_none_right_eq_some, Option.some.injEq] at opened
    obtain ⟨isTest, rfl⟩ := opened
    simp only [Operation.drawnText?, isTest]
  | startTest given =>
    cases opened
    rfl
  | _ => cases opened

theorem drawnText?_step {manualPrefix : String} {action : Action} {kind : StepKind}
    (isStep : action.kind = .step kind) :
    (Operation.add action).drawnText? manualPrefix = some (stepText kind action.target action.value) := by
  simp only [Operation.drawnText?, isStep]

/-- A character that stands in a label of a builder. -/
def Builder.Shows (builder : Builder) (c : Char) : Prop :=
  ∃ line ∈ builder.lines, c ∈ line.label.toList

section Shown

variable {builder : Builder} {c : Char}

theorem Builder.shows_append {more : List Line} {next : Builder} (written : next.lines = builder.lines ++ more) :
    next.Shows c ↔ builder.Shows c ∨ ∃ line ∈ more, c ∈ line.label.toList := by
  simp only [Shows, written, List.mem_append, or_and_right, exists_or]

theorem Builder.shows_closeTest : builder.closeTest.Shows c ↔ builder.Shows c := by
  rw [shows_append builder.closeTest_lines, or_iff_left]
  split <;> simp [Line.label]

theorem Builder.shows_openTest (wide : 0x7f < c.val) (action : Action) :
    (builder.openTest action).Shows c ↔
      builder.Shows c ∨ c ∈ (testLabel builder.manualPrefix action).toList := by
  rw [shows_append (builder.openTest_lines action), shows_closeTest]
  simp [Line.label, mem_escapeLabel_iff wide]

/-- The edge of a step has no label. -/
theorem Builder.shows_stepLines {kind : StepKind} {action : Action} :
    (∃ line ∈ builder.stepLines kind action, c ∈ line.label.toList) ↔
      ∃ node ∈ builder.newNode? kind action, c ∈ node.label.toList := by
  simp [stepLines, Line.label, or_and_right, exists_or]

/-- A node that is shared shows already what the step would have it show. -/
theorem History.shows_takeStep {manualPrefix : String} {reuse : Reuse} {moments : List Moment}
    (history : History (.fresh manualPrefix reuse) moments builder) (wide : 0x7f < c.val) (kind : StepKind)
    (action : Action) :
    (builder.takeStep kind action).Shows c ↔
      builder.Shows c ∨ c ∈ (stepText kind action.target action.value).toList := by
  have labelled : c ∈ (stepLabel (stepKey kind action)).toList ↔
      c ∈ (stepText kind action.target action.value).toList := mem_stepLabel_iff wide
  rw [Builder.shows_append (builder.takeStep_lines kind action), Builder.shows_stepLines, ← labelled]
  rcases builder.nodeFor_cases kind action with ⟨-, new⟩ | ⟨-, known, new⟩
  · simp [new]
  · have declared := (history.shared_declared known).2
    obtain ⟨line, among, isNode⟩ := List.mem_filterMap.mp declared
    have already : c ∈ (stepLabel (stepKey kind action)).toList → builder.Shows c := by
      intro member
      cases line with
      | node inTest node =>
        cases isNode
        exact ⟨_, among, member⟩
      | _ => cases isNode
    simpa [new] using already

/-- Beyond ASCII a run shows what its operations have drawn. -/
theorem History.shows_iff {manualPrefix : String} {reuse : Reuse} {moments : List Moment}
    (history : History (.fresh manualPrefix reuse) moments builder) (wide : 0x7f < c.val) :
    builder.Shows c ↔
      ∃ text ∈ moments.filterMap (·.operation.drawnText? manualPrefix), c ∈ text.toList := by
  induction history with
  | start => simp [Builder.Shows, Builder.fresh, Line.label]
  | next past move ih =>
    simp only [List.filterMap_append, List.mem_append, or_and_right, exists_or, ← ih]
    cases move with
    | opened opened =>
      rw [Builder.shows_openTest wide, past.manualPrefix]
      simp [drawnText?_opened opened, Builder.fresh]
    | closed =>
      rw [Builder.shows_closeTest]
      simp [Operation.drawnText?]
    | stepped isStep =>
      rw [past.shows_takeStep wide]
      simp [drawnText?_step isStep]

end Shown

/-! ## Lines of a finished diagram -/

/-- What is asked for after the end makes no difference to the diagram. -/
theorem Builder.finish_run_takeWhile (builder : Builder) (operations : List Operation) :
    (builder.run operations).finish = (builder.run (operations.takeWhile (· ≠ .finish))).finish := by
  rcases builder.run_cases operations with unfinished | ⟨before, after, rfl, unfinished, reached⟩
  · have kept : operations.takeWhile (· ≠ .finish) = operations :=
      List.takeWhile_eq_self_iff.mpr fun operation member => by
        simpa using fun same : operation = .finish => unfinished (same ▸ member)
    rw [kept]
  · have kept : (before ++ .finish :: after).takeWhile (· ≠ .finish) = before := by
      rw [List.takeWhile_append_of_pos fun operation member => by
        simpa using fun same : operation = .finish => unfinished (same ▸ member)]
      simp
    have again : (builder.run before).finish.finish = (builder.run before).finish :=
      attempt_finished rfl .finish
    rw [kept, reached, again]

theorem wide_of_mem_wideLineEnds {c : Char} (member : c ∈ wideLineEnds) : 0x7f < c.val := by
  have all : wideLineEnds.all (0x7f < ·.val) = true := by decide
  exact of_decide_eq_true (List.all_eq_true.mp all c member)

theorem wide_of_isWideControl {c : Char} (control : isWideControl c = true) : 0x7f < c.val := by
  simp only [isWideControl, Bool.and_eq_true, decide_eq_true_eq] at control
  grind

/-- A line without control characters is broken just by a line end beyond ASCII in its label. -/
theorem Line.unbroken_iff {line : Line} (clean : ∀ c ∈ line.label.toList, isControl c = false) :
    (∀ c ∈ line.text.toList, endsLine c = false) ↔ ∀ c ∈ line.label.toList, c ∉ wideLineEnds := by
  constructor
  · intro unbroken c inLabel wide
    have plain := unbroken c (Line.mem_text_of_mem_label inLabel)
    simp [endsLine, wide] at plain
  · intro narrow c member
    rw [Bool.eq_false_iff]
    intro ends
    have inLabel := (Line.mem_text_iff (isPrintable_of_endsLine ends)).mp member
    rcases Bool.or_eq_true_iff.mp ends with ascii | wide
    · have controls : asciiLineEnds.all isControl = true := by decide
      exact Bool.eq_false_iff.mp (clean c inLabel) (List.all_eq_true.mp controls c (of_decide_eq_true ascii))
    · exact narrow c inLabel (of_decide_eq_true wide)

section Finished

variable {settings : Settings} {given : Option String} {builder : Builder}

/-- A finished run is a history that goes on to the first end. -/
theorem exists_history (started : Builder.start settings given = .ok builder) (operations : List Operation) :
    ∃ last, (builder.run operations).finish = last.finish ∧
      History (.fresh settings.manualPrefix builder.reuse)
        (builder.moments (operations.takeWhile (· ≠ .finish))) last := by
  have unfinished : .finish ∉ operations.takeWhile (· ≠ .finish) := by
    intro member
    simpa using List.mem_takeWhile_imp member
  exact ⟨_, builder.finish_run_takeWhile operations, (History.of_run_started started unfinished).1⟩

/-- No label of a finished diagram holds a double quote or an ASCII control character. -/
theorem finished_labels_clean (started : Builder.start settings given = .ok builder)
    (operations : List Operation) :
    ∀ line ∈ (builder.run operations).finish.lines, ∀ c ∈ line.label.toList, c ≠ '"' ∧ isControl c = false := by
  intro line among c member
  obtain ⟨last, same, history⟩ := exists_history started operations
  obtain ⟨body, lines, legible, -⟩ := history.finished
  rw [same, lines, List.mem_cons, List.mem_cons] at among
  rcases among with rfl | rfl | inBody
  · simp [Line.label] at member
  · simp [Line.label] at member
  · exact (legible line inBody).clean c member

/-- Beyond ASCII the labels of a finished diagram avoid what the texts drawn in it avoid. -/
theorem finished_labels_avoid_iff (started : Builder.start settings given = .ok builder)
    (operations : List Operation) (unwanted : Char → Bool) (wide : ∀ c, unwanted c = true → 0x7f < c.val) :
    (∀ line ∈ (builder.run operations).finish.lines, ∀ c ∈ line.label.toList, unwanted c = false) ↔
      ∀ text ∈ drawnTexts settings.manualPrefix operations, ∀ c ∈ text.toList, unwanted c = false := by
  obtain ⟨last, same, history⟩ := exists_history started operations
  have shown {c : Char} (wanted : 0x7f < c.val) :
      last.finish.Shows c ↔ ∃ text ∈ drawnTexts settings.manualPrefix operations, c ∈ text.toList := by
    have closed : last.finish.Shows c ↔ last.closeTest.Shows c := Iff.rfl
    have drawn : drawnTexts settings.manualPrefix operations =
        (builder.moments (operations.takeWhile (· ≠ .finish))).filterMap
          (·.operation.drawnText? settings.manualPrefix) := by
      conv_lhs => rw [drawnTexts, ← builder.moments_operations (operations.takeWhile _), List.filterMap_map]
      rfl
    rw [closed, Builder.shows_closeTest, history.shows_iff wanted, drawn]
  rw [same]
  constructor
  · intro avoided text drawn c member
    rw [Bool.eq_false_iff]
    intro found
    obtain ⟨line, among, inLabel⟩ := (shown (wide c found)).mpr ⟨text, drawn, member⟩
    exact Bool.eq_false_iff.mp (avoided line among c inLabel) found
  · intro avoided line among c member
    rw [Bool.eq_false_iff]
    intro found
    obtain ⟨text, drawn, inText⟩ := (shown (wide c found)).mp ⟨line, among, member⟩
    exact Bool.eq_false_iff.mp (avoided text drawn c inText) found

/-- Whatever a builder is asked for, finishing answers with a text whose labels hold no double quote and no
ASCII control character. A reader that knows every line end finds the lines of the builder in it just if no
text drawn until the first end holds a line end beyond ASCII, and its labels are free of all control
characters just if no such text holds one beyond ASCII. -/
theorem finished_lines_iff (started : Builder.start settings given = .ok builder)
    (operations : List Operation) :
    Program.finish.run (builder.run operations) =
        .ok (builder.run operations).finish.text (builder.run operations).finish ∧
      (∀ line ∈ (builder.run operations).finish.lines, ∀ c ∈ line.label.toList,
        c ≠ '"' ∧ isControl c = false) ∧
      (readLines (builder.run operations).finish.text = (builder.run operations).finish.lines.map Line.text ↔
        ∀ text ∈ drawnTexts settings.manualPrefix operations, ∀ c ∈ text.toList, c ∉ wideLineEnds) ∧
      ((∀ line ∈ (builder.run operations).finish.lines, ∀ c ∈ line.label.toList, isAnyControl c = false) ↔
        ∀ text ∈ drawnTexts settings.manualPrefix operations, ∀ c ∈ text.toList, isWideControl c = false) := by
  have clean := finished_labels_clean started operations
  refine ⟨Program.run_finish _, clean, ?_, ?_⟩
  · have nonempty : (builder.run operations).finish.lines ≠ [] := by
      obtain ⟨last, same, history⟩ := exists_history started operations
      obtain ⟨body, lines, -⟩ := history.finished
      simp [same, lines]
    have narrow := finished_labels_avoid_iff started operations (fun c => c ∈ wideLineEnds)
      fun c member => wide_of_mem_wideLineEnds (of_decide_eq_true member)
    simp only [decide_eq_false_iff_not] at narrow
    rw [Builder.text, readLines_textOf_iff nonempty, ← narrow]
    exact forall₂_congr fun line among => Line.unbroken_iff fun c member => (clean line among c member).2
  · rw [← finished_labels_avoid_iff started operations isWideControl fun _ => wide_of_isWideControl]
    refine forall₂_congr fun line among => forall₂_congr fun c member => ?_
    rw [isAnyControl, (clean line among c member).2, Bool.false_or]

end Finished

/-- The line feed of the sample run does not break its diagram. -/
theorem finished_lines_of_sample :
    Builder.start {} none = .ok sampleBuilder ∧
      (readLines (sampleBuilder.run sampleRun).finish.text =
        (sampleBuilder.run sampleRun).finish.lines.map Line.text) ∧
      ∀ line ∈ (sampleBuilder.run sampleRun).finish.lines, ∀ c ∈ line.label.toList, isAnyControl c = false := by
  obtain ⟨-, -, lines, controls⟩ := finished_lines_iff sample_started sampleRun
  have ascii : ∀ text ∈ drawnTexts ({} : Settings).manualPrefix sampleRun, ∀ c ∈ text.toList, ¬ 0x7f < c.val := by
    have all : (drawnTexts ({} : Settings).manualPrefix sampleRun).all (·.toList.all (·.val ≤ 0x7f)) = true := by decide
    intro text among c member
    have least := List.all_eq_true.mp (List.all_eq_true.mp all text among) c member
    exact UInt32.not_lt.mpr (of_decide_eq_true least)
  refine ⟨sample_started, lines.mpr fun text among c member wide => ?_, controls.mpr fun text among c member => ?_⟩
  · exact ascii text among c member (wide_of_mem_wideLineEnds wide)
  · exact Bool.eq_false_iff.mpr fun wide => ascii text among c member (wide_of_isWideControl wide)

/-- A click on a place whose name holds the character for the next line. -/
def nextLineClick : Action := { kind := .step .click, target := "a\u0085b" }

/-- The label of such a click holds a control character, and the line with it is read as two. -/
theorem next_line_breaks_label :
    Builder.start {} none = .ok sampleBuilder ∧
      (∃ line ∈ (sampleBuilder.run [.add nextLineClick]).finish.lines, '\u0085' ∈ line.label.toList) ∧
      isAnyControl '\u0085' = true ∧
      readLines (sampleBuilder.run [.add nextLineClick]).finish.text ≠
        (sampleBuilder.run [.add nextLineClick]).finish.lines.map Line.text := by
  have broken : Line.node false ⟨⟨.click, 1⟩, "fa:fa-mouse-pointer Click a\u0085b"⟩ ∈
      (sampleBuilder.run [.add nextLineClick]).finish.lines := by decide
  refine ⟨sample_started, ⟨_, broken, by decide⟩, by decide, ?_⟩
  rw [Builder.text, Ne, readLines_textOf_iff (List.ne_nil_of_mem broken)]
  intro unbroken
  have whole := unbroken _ broken '\u0085' (Line.mem_text_of_mem_label (by decide))
  exact absurd whole (by decide)

end TestFlow.Diagram

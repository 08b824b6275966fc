import TestFlow.Action
import TestFlow.Text.Blank

/-! # Labels

A label stands between double quotes on a line of its diagram. So a double quote in it becomes a
single one, and a run of ASCII control characters becomes one blank.
-/

namespace TestFlow.Diagram

/-- ASCII control characters, the ones a label never holds. -/
def isControl (c : Char) : Bool :=
  c.val ≤ 0x1f || c.val = 0x7f

/-- A double quote as a single one. -/
def softenQuote (c : Char) : Char :=
  if c = '"' then '\'' else c

/-- A text made fit to stand as a label. -/
def escapeLabel (text : String) : String :=
  .ofList (Text.blankRuns isControl (text.toList.map softenQuote))

theorem toList_escapeLabel (text : String) :
    (escapeLabel text).toList = Text.blankRuns isControl (text.toList.map softenQuote) :=
  String.toList_ofList

/-- A label holds no double quote and no control character. -/
theorem mem_escapeLabel {text : String} {c : Char} (member : c ∈ (escapeLabel text).toList) :
    c ≠ '"' ∧ isControl c = false := by
  rw [toList_escapeLabel] at member
  rcases Text.mem_blankRunsFrom member with rfl | ⟨softened, plain⟩
  · exact ⟨by decide, rfl⟩
  · obtain ⟨original, -, rfl⟩ := List.mem_map.mp softened
    refine ⟨?_, plain⟩
    unfold softenQuote
    split
    · decide
    · assumption

/-- The icon that leads the label of a step. -/
def icon : StepKind → String
  | .navigate => "fa:fa-globe"
  | .click => "fa:fa-mouse-pointer"
  | .fill => "fa:fa-keyboard"
  | .assertion => "fa:fa-check"

/-- A value as labels show it; a step without one shows the word for nothing. -/
def valueText (value : Option String) : String :=
  value.getD "None"

/-- What a step does, in words. -/
def stepText (kind : StepKind) (target : String) (value : Option String) : String :=
  match kind with
  | .navigate => "Navigate to " ++ target
  | .click => "Click " ++ target
  | .fill => "Fill " ++ target ++ " with '" ++ valueText value ++ "'"
  | .assertion => "Assertion: " ++ target ++ " " ++ valueText value

/-- The label of a step. -/
def stepLabel (key : StepKey) : String :=
  escapeLabel (icon key.kind ++ " " ++ stepText key.kind key.target key.value)

/-- The text that tells of a step, not yet escaped: its icon and what is done, in words. Pages are visited and
elements clicked whatever the value is. -/
inductive Describes : StepKey → String → Prop where
  | navigate {target : String} {value : Option String} :
      Describes ⟨.navigate, target, value⟩ ("fa:fa-globe Navigate to " ++ target)
  | click {target : String} {value : Option String} :
      Describes ⟨.click, target, value⟩ ("fa:fa-mouse-pointer Click " ++ target)
  | fill {target : String} {value : Option String} :
      Describes ⟨.fill, target, value⟩
        ("fa:fa-keyboard Fill " ++ target ++ " with '" ++ value.getD "None" ++ "'")
  | assertion {target : String} {value : Option String} :
      Describes ⟨.assertion, target, value⟩ ("fa:fa-check Assertion: " ++ target ++ " " ++ value.getD "None")

theorem Describes.eq_text {key : StepKey} {text : String} (described : Describes key text) :
    text = icon key.kind ++ " " ++ stepText key.kind key.target key.value := by
  cases described <;> simp [icon, stepText, valueText, ← String.append_assoc]

/-- A label is the escaped text that tells of its step. -/
theorem exists_describes (key : StepKey) : ∃ text, Describes key text ∧ stepLabel key = escapeLabel text := by
  obtain ⟨text, described⟩ : ∃ text, Describes key text := by
    obtain ⟨_ | _ | _ | _, target, value⟩ := key
    · exact ⟨_, .navigate⟩
    · exact ⟨_, .click⟩
    · exact ⟨_, .fill⟩
    · exact ⟨_, .assertion⟩
  exact ⟨text, described, by rw [described.eq_text, stepLabel]⟩

/-- The label of a test, marked if the test is done by hand; not yet escaped. -/
def testLabel (manualPrefix : String) (action : Action) : String :=
  if action.isManual then manualPrefix ++ action.target else action.target

end TestFlow.Diagram

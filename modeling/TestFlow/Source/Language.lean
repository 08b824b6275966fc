import TestFlow.Failure

/-! # Languages of test files

A test file is written in one of three languages, which its suffix tells.
-/

namespace TestFlow.Source

/-- The languages a test file can be written in. -/
inductive Language where
  | javascript
  | typescript
  | tsx
deriving DecidableEq, Repr, Inhabited

namespace Language

def name : Language → String
  | .javascript => "javascript"
  | .typescript => "typescript"
  | .tsx => "tsx"

/-- The language so named, if there is one. -/
def ofName? (name : String) : Option Language :=
  [javascript, typescript, tsx].find? (·.name = name)

theorem ofName?_name (language : Language) : ofName? language.name = some language := by
  cases language <;> rfl

theorem isSome_ofName? (name : String) :
    (ofName? name).isSome = true ↔ name ∈ ["javascript", "typescript", "tsx"] := by
  change _ ↔ name ∈ [javascript, typescript, tsx].map Language.name
  simp only [ofName?, List.find?_isSome, List.mem_map, decide_eq_true_eq]

/-- The language so named. -/
def ofName (name : String) : Except Failure Language :=
  match ofName? name with
  | some language => .ok language
  | none => .error (.unsupportedLanguage name)

/-- Whether types may be written. -/
def hasTypes : Language → Bool
  | .javascript => false
  | .typescript | .tsx => true

/-- Whether elements may be written as markup. -/
def hasMarkup : Language → Bool
  | .javascript | .tsx => true
  | .typescript => false

end Language

end TestFlow.Source

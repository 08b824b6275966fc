/-! # Settings

What a user can set: the names of the functions that declare tests and assertions, how manual tests
are marked and shown, how far equal steps are shared, and where the diagram goes. Each setting has a
default and an environment variable; a variable that is set to the empty text counts as set.
-/

namespace TestFlow

/-- The settings of a run. -/
structure Settings where
  testFunction : String := "test"
  assertionFunction : String := "expect"
  manualTag : String := "@manual"
  manualPrefix : String := "Manual test - "
  dedupScope : String := "test"
  outputPath : String := "output.mermaid"
deriving DecidableEq, Repr, Inhabited

namespace Settings

/-- The environment variable of each setting. -/
def sources : Settings :=
  { testFunction := "PWMERMAID_TEST_FUNCTION"
    assertionFunction := "PWMERMAID_ASSERTION_FUNCTION"
    manualTag := "PWMERMAID_MANUAL_TAG"
    manualPrefix := "PWMERMAID_MANUAL_PREFIX"
    dedupScope := "PWMERMAID_DEDUP_SCOPE"
    outputPath := "PWMERMAID_OUTPUT" }

/-- The names of all environment variables. -/
def sourceNames : List String :=
  [sources.testFunction, sources.assertionFunction, sources.manualTag, sources.manualPrefix,
    sources.dedupScope, sources.outputPath]

/-- The settings that an environment gives. -/
def ofEnvironment (lookup? : String → Option String) : Settings :=
  let defaults : Settings := {}
  { testFunction := (lookup? sources.testFunction).getD defaults.testFunction
    assertionFunction := (lookup? sources.assertionFunction).getD defaults.assertionFunction
    manualTag := (lookup? sources.manualTag).getD defaults.manualTag
    manualPrefix := (lookup? sources.manualPrefix).getD defaults.manualPrefix
    dedupScope := (lookup? sources.dedupScope).getD defaults.dedupScope
    outputPath := (lookup? sources.outputPath).getD defaults.outputPath }

end Settings

end TestFlow

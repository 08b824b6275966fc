import TestFlow.Proofs.Placement

/-! # Tests done by hand

A test is marked by the tag among its options. Its options are the second argument; of their entries only the first
pair that is named for the tag is read, and of an array there only the string literals. So nothing but the literals
that this pair holds makes a difference to the mark, and one literal more never takes it away.
-/

namespace TestFlow

open Syntax Diagram

/-! ## Where the mark is -/

/-- A key that names the tag: a name, or a string literal of that value. -/
inductive NamesTag (key : Syntax.Node) : Prop where
  | name (isName : key.kind = .propertyIdentifier) (text : key.text = "tag")
  | literal (value : key.stringValue? = some "tag")

/-- A pair whose key names the tag. -/
def IsTagPair (entry : Syntax.Node) : Prop :=
  entry.kind = .pair ∧ ∃ key, entry.child? .key = some key ∧ NamesTag key

/-- A string literal with the marker in its value. -/
def HoldsMarker (marker : String) (node : Syntax.Node) : Prop :=
  ∃ text, node.stringValue? = some text ∧ marker.toList <:+: text.toList

/-- A value of the tag that holds the marker, itself or in an element. -/
inductive CarriesMarker (marker : String) (value : Syntax.Node) : Prop where
  | literal (holds : HoldsMarker marker value)
  | array {element : Syntax.Node} (isArray : value.kind = .array) (among : element ∈ value.namedChildren)
      (holds : HoldsMarker marker element)

/-- The first pair of the tag in an object, with its value. -/
structure FirstTag (object pair value : Syntax.Node) : Prop where
  first : ∃ before after, object.namedChildren = before ++ pair :: after ∧ ∀ entry ∈ before, ¬ IsTagPair entry
  isTag : IsTagPair pair
  value : pair.child? .value = some value

/-- A call whose second argument is an object in which the first pair of the tag carries the marker. -/
def IsMarked (marker : String) (call : Syntax.Node) : Prop :=
  ∃ options pair value, call.callArguments[1]? = some options ∧ options.kind = .object ∧
    FirstTag options pair value ∧ CarriesMarker marker value

section

variable {settings : Settings} {marker : String} {call object entry key pair tag value : Syntax.Node}

/-- A string literal is nothing else. -/
theorem kind_ne_of_literal {node : Syntax.Node} {kind : Kind} {text : String} (literal : node.stringValue? = some text)
    (notString : .string ≠ kind) (notTemplate : .templateString ≠ kind) : node.kind ≠ kind := by
  rcases Node.isStringLike_of_stringValue? literal with isString | isTemplate
  · rwa [isString]
  · rwa [isTemplate]

theorem namesTag_iff : NamesTag key ↔ key.keyName? = some "tag" := by
  unfold Node.keyName?
  constructor
  · intro names
    cases names with
    | name isName text => simp [isName, text]
    | literal value =>
      have notName : key.kind ≠ .propertyIdentifier := kind_ne_of_literal value nofun nofun
      rw [if_neg notName, value]
  · intro found
    split at found
    · rename_i isName
      exact .name isName (Option.some.inj found)
    · exact .literal found

theorem isTagPair_iff : IsTagPair entry ↔ entry.isPairNamed "tag" = true := by
  simp [IsTagPair, Node.isPairNamed, Option.bind_eq_some_iff, namesTag_iff]

theorem objectProperty?_eq_some_iff :
    object.objectProperty? "tag" = some value ↔ ∃ pair, FirstTag object pair value := by
  simp only [Node.objectProperty?, Option.bind_eq_some_iff, List.find?_eq_some_iff_append]
  constructor
  · rintro ⟨pair, ⟨isTag, before, after, split, unnamed⟩, found⟩
    refine ⟨pair, ⟨before, after, split, fun entry member => ?_⟩, isTagPair_iff.mpr isTag, found⟩
    simpa [isTagPair_iff] using unnamed entry member
  · rintro ⟨pair, ⟨before, after, split, unnamed⟩, isTag, found⟩
    refine ⟨pair, ⟨isTagPair_iff.mp isTag, before, after, split, fun entry member => ?_⟩, found⟩
    simpa [isTagPair_iff] using unnamed entry member

theorem carriesMarker_iff :
    CarriesMarker marker value ↔ ∃ text ∈ tagTexts value, marker.toList <:+: text.toList := by
  unfold tagTexts
  constructor
  · intro carries
    cases carries with
    | literal holds =>
      obtain ⟨text, found, part⟩ := holds
      have notArray : value.kind ≠ .array := kind_ne_of_literal found nofun nofun
      rw [if_neg notArray, found]
      exact ⟨text, by simp, part⟩
    | array isArray among holds =>
      obtain ⟨text, found, part⟩ := holds
      rw [if_pos isArray]
      exact ⟨text, List.mem_filterMap.mpr ⟨_, among, found⟩, part⟩
  · rintro ⟨text, member, part⟩
    split at member
    · rename_i isArray
      obtain ⟨element, among, found⟩ := List.mem_filterMap.mp member
      exact .array isArray among ⟨text, found, part⟩
    · exact .literal ⟨text, by simpa using member, part⟩

/-- The tag among the options of a call. -/
def tag? (call : Syntax.Node) : Option Syntax.Node :=
  (call.callArguments[1]?.filter (·.kind = .object)).bind (·.objectProperty? "tag")

theorem isMarked_iff : IsMarked marker call ↔ ∃ tag, tag? call = some tag ∧ CarriesMarker marker tag := by
  simp only [IsMarked, tag?, Option.bind_eq_some_iff, Option.filter_eq_some_iff, decide_eq_true_eq,
    objectProperty?_eq_some_iff]
  constructor
  · rintro ⟨options, pair, tag, given, isObject, first, carries⟩
    exact ⟨tag, ⟨options, ⟨given, isObject⟩, pair, first⟩, carries⟩
  · rintro ⟨tag, ⟨options, ⟨given, isObject⟩, pair, first⟩, carries⟩
    exact ⟨options, pair, tag, given, isObject, first, carries⟩

/-- The mark of a test is read where it stands. -/
theorem isManual_iff : (testAction settings call).isManual = true ↔ IsMarked settings.manualTag call := by
  rw [isMarked_iff, testAction, tag?]
  cases call.callArguments[1]? with
  | none => simp [isManual]
  | some options =>
    by_cases isObject : options.kind = .object
    · cases found : options.objectProperty? "tag" with
      | none => simp [isManual, isObject, found, Option.filter]
      | some tag => simp [isManual, isObject, found, carriesMarker_iff, Text.hasPart_iff, Option.filter]
    · simp [isManual, isObject, Option.filter]

end

/-! ## What makes no difference to the mark -/

/-- Lists of elements in another order, with elements put in anywhere that are no string literals. -/
inductive Rearranged : List Syntax.Node → List Syntax.Node → Prop where
  | reordered {old new : List Syntax.Node} (same : old.Perm new) : Rearranged old new
  | added {before after : List Syntax.Node} {element : Syntax.Node} (computed : element.stringValue? = none) :
      Rearranged (before ++ after) (before ++ element :: after)
  | trans {first second third : List Syntax.Node} (head : Rearranged first second) (tail : Rearranged second third) :
      Rearranged first third

/-- Lists of entries of an object, with entries put in anywhere that are no pairs of the tag, and with arrays of the
tag whose elements are related. -/
inductive Rewritten (elements : List Syntax.Node → List Syntax.Node → Prop) :
    List Syntax.Node → List Syntax.Node → Prop where
  | nil : Rewritten elements [] []
  | kept {entry : Syntax.Node} {old new : List Syntax.Node} (rest : Rewritten elements old new) :
      Rewritten elements (entry :: old) (entry :: new)
  | added {entry : Syntax.Node} {old new : List Syntax.Node} (other : ¬ IsTagPair entry)
      (rest : Rewritten elements old new) : Rewritten elements old (entry :: new)
  | changed {pair pair' array array' : Syntax.Node} {old new : List Syntax.Node}
      (isTag : IsTagPair pair) (isTag' : IsTagPair pair')
      (value : pair.child? .value = some array) (value' : pair'.child? .value = some array')
      (isArray : array.kind = .array) (isArray' : array'.kind = .array)
      (related : elements array.namedChildren array'.namedChildren) (rest : Rewritten elements old new) :
      Rewritten elements (pair :: old) (pair' :: new)

/-- Calls of one test, the second one with more arguments or with other options. -/
inductive Redone (elements : List Syntax.Node → List Syntax.Node → Prop) (call other : Syntax.Node) : Prop where
  | extended (further : List Syntax.Node) (both : 2 ≤ call.callArguments.length)
      (same : other.callArguments = call.callArguments ++ further)
  | rewritten {options options' : Syntax.Node} (given : call.callArguments[1]? = some options)
      (given' : other.callArguments[1]? = some options') (isObject : options.kind = .object)
      (isObject' : options'.kind = .object)
      (entries : Rewritten elements options.namedChildren options'.namedChildren)

/-- The tag is the same, or both are arrays whose elements are related. -/
inductive TagRelated (elements : List Syntax.Node → List Syntax.Node → Prop) :
    Option Syntax.Node → Option Syntax.Node → Prop where
  | same (tag : Option Syntax.Node) : TagRelated elements tag tag
  | arrays {array array' : Syntax.Node} (isArray : array.kind = .array) (isArray' : array'.kind = .array)
      (related : elements array.namedChildren array'.namedChildren) :
      TagRelated elements (some array) (some array')

section

variable {settings : Settings} {marker : String} {old new : List Syntax.Node} {call other : Syntax.Node}
  {elements : List Syntax.Node → List Syntax.Node → Prop}

theorem Rearranged.literals (rearranged : Rearranged old new) :
    (old.filterMap Node.stringValue?).Perm (new.filterMap Node.stringValue?) := by
  induction rearranged with
  | reordered same => exact same.filterMap _
  | added computed => simp [List.filterMap_append, computed]
  | trans _ _ head tail => exact head.trans tail

/-- The tag is read off the first pair that is named for it, whatever is put in before. -/
theorem Rewritten.tagRelated (rewritten : Rewritten elements old new) :
    TagRelated elements ((old.find? (Node.isPairNamed "tag")).bind (·.child? .value))
      ((new.find? (Node.isPairNamed "tag")).bind (·.child? .value)) := by
  induction rewritten with
  | nil => exact .same _
  | @kept entry old new _ ih =>
    cases named : entry.isPairNamed "tag" with
    | true =>
      rw [List.find?_cons_of_pos named, List.find?_cons_of_pos named]
      exact .same _
    | false => rwa [List.find?_cons_of_neg (by simp [named]), List.find?_cons_of_neg (by simp [named])]
  | @added entry old new other _ ih =>
    rw [isTagPair_iff] at other
    rwa [List.find?_cons_of_neg other]
  | changed isTag isTag' value value' isArray isArray' related _ ih =>
    rw [List.find?_cons_of_pos (isTagPair_iff.mp isTag), List.find?_cons_of_pos (isTagPair_iff.mp isTag'),
      Option.bind_some, Option.bind_some, value, value']
    exact .arrays isArray isArray' related

theorem Redone.tagRelated (redone : Redone elements call other) : TagRelated elements (tag? call) (tag? other) := by
  cases redone with
  | extended further both same =>
    have given : other.callArguments[1]? = call.callArguments[1]? := by
      rw [same, List.getElem?_append_left both]
    rw [tag?, tag?, given]
    exact .same _
  | rewritten given given' isObject isObject' entries =>
    simpa [tag?, given, given', isObject, isObject', Option.filter, Node.objectProperty?] using entries.tagRelated

theorem carriesMarker_array_iff {array : Syntax.Node} (isArray : array.kind = .array) :
    CarriesMarker marker array ↔ ∃ element ∈ array.namedChildren, HoldsMarker marker element := by
  constructor
  · intro carries
    cases carries with
    | literal holds =>
      obtain ⟨text, found, -⟩ := holds
      exact absurd isArray (kind_ne_of_literal found nofun nofun)
    | array _ among holds => exact ⟨_, among, holds⟩
  · rintro ⟨element, among, holds⟩
    exact .array isArray among holds

/-- What the elements of arrays keep of the marker, the whole call keeps. -/
theorem Redone.isMarked (redone : Redone elements call other) (keeps : Prop → Prop → Prop) (refl : ∀ p, keeps p p)
    (kept : ∀ old new, elements old new →
      keeps (∃ element ∈ old, HoldsMarker marker element) (∃ element ∈ new, HoldsMarker marker element)) :
    keeps (IsMarked marker call) (IsMarked marker other) := by
  have related := redone.tagRelated
  rw [isMarked_iff, isMarked_iff]
  generalize tag? call = tag, tag? other = tag' at related ⊢
  cases related with
  | same tag => exact refl _
  | arrays isArray isArray' related =>
    simpa [carriesMarker_array_iff isArray, carriesMarker_array_iff isArray'] using kept _ _ related

theorem Rearranged.holdsMarker_iff (rearranged : Rearranged old new) :
    (∃ element ∈ old, HoldsMarker marker element) ↔ ∃ element ∈ new, HoldsMarker marker element := by
  have read (elements : List Syntax.Node) : (∃ element ∈ elements, HoldsMarker marker element) ↔
      ∃ text ∈ elements.filterMap Node.stringValue?, marker.toList <:+: text.toList := by
    simp only [HoldsMarker, List.mem_filterMap]
    grind
  simp only [read, rearranged.literals.mem_iff]

/-- Nothing but the literals in the tag decides on the mark. -/
theorem isManual_redone (redone : Redone Rearranged call other) :
    (testAction settings other).isManual = (testAction settings call).isManual := by
  have same : IsMarked settings.manualTag call ↔ IsMarked settings.manualTag other :=
    redone.isMarked Iff Iff.refl fun _ _ => Rearranged.holdsMarker_iff
  rw [← isManual_iff, ← isManual_iff] at same
  exact (Bool.eq_iff_iff.mpr same).symm

/-- More elements never take the mark away. -/
theorem isManual_grown (redone : Redone List.Sublist call other)
    (manual : (testAction settings call).isManual = true) : (testAction settings other).isManual = true := by
  rw [isManual_iff] at manual ⊢
  refine redone.isMarked (· → ·) (fun _ => id) (fun old new more => ?_) manual
  rintro ⟨element, among, holds⟩
  exact ⟨element, more.subset among, holds⟩

end

/-- Each test of a diagram has the escaped name of its declaration for its label, behind the prefix exactly if the
declaration is marked: if its second argument is an object whose first pair of the tag has a string literal with
the marker for its value, or an array with such an element. Whatever else is put into the array, the object or the
arguments makes no difference, and no more does another order of the elements; one literal more never takes the
mark away. -/
theorem tests_marked {settings : Settings} {given : Option String} {language : String} {root : Syntax.Node}
    {builder : Builder} (accepted : acceptTree language root = .ok root)
    (started : Builder.start settings given = .ok builder) :
    (∃ graph outline,
      flowOfTree settings given language root = .ok graph ∧
      Outline.ofText? graph.text = some outline ∧
      outline.tests.length = (declarations settings (callsWithin (.root root))).length ∧
      ∀ index call, (declarations settings (callsWithin (.root root)))[index]? = some call →
        ∃ name action, firstValue? call.node = some name ∧ classify settings call = .action action ∧
          outline.tests[index]? =
            some (index + 1, escapeLabel (if action.isManual then settings.manualPrefix ++ name else name)) ∧
          (action.isManual = true ↔ IsMarked settings.manualTag call.node)) ∧
    (∀ call other, Redone Rearranged call other →
      (testAction settings other).isManual = (testAction settings call).isManual) ∧
    ∀ call other, Redone List.Sublist call other →
      (testAction settings call).isManual = true → (testAction settings other).isManual = true := by
  refine ⟨?_, fun call other => isManual_redone, fun call other => isManual_grown⟩
  obtain ⟨graph, drawn, text, -⟩ := flowOfTree_eq_run accepted started
  obtain ⟨history, -⟩ := History.of_run_started started (finish_not_mem_requests settings root)
  have tests := outlineOf_tests_of_tree started root
  refine ⟨graph, outlineOf settings.manualPrefix (builder.moments (requests settings root)), drawn, ?_, ?_, ?_⟩
  · rw [text]
    exact history.ofText?_finish
  · simp [tests, numberedTests]
  · intro index call isThere
    have declares : isTestDeclaration settings call.node = true :=
      (List.mem_filter.mp (List.mem_of_getElem? isThere)).2
    obtain ⟨name, isName, label⟩ := numberedTests_getElem? isThere declares
    exact ⟨name, testAction settings call.node, isName, classify_declaration declares, tests ▸ label, isManual_iff⟩

/-- Options of a test whose tag is an array of the given texts. -/
def sampleOptions (texts : List String) : Syntax.Node :=
  .plain .object ""
    [.plain .pair ""
      [(Node.plain .propertyIdentifier "tag" []).withField .key,
        (Node.plain .array "" (texts.map sampleString)).withField .value]]

/-- A test that is marked by one of its tags, and a test without options. -/
def sampleMarkedTree : Syntax.Node :=
  .plain (.other "program") ""
    [sampleDeclaration "order" [sampleOptions ["@slow", "@manual"]], sampleDeclaration "login" []]

/-- The first test has the prefix, the second one does not; the order of the tags makes no difference. -/
theorem tests_of_marked_tree :
    acceptTree "javascript" sampleMarkedTree = .ok sampleMarkedTree ∧
      Builder.start {} none = .ok sampleBuilder ∧
      (∃ (graph : Graph) (outline : Outline), flowOfTree {} none "javascript" sampleMarkedTree = .ok graph ∧
        Outline.ofText? graph.text = some outline ∧ outline.tests.length = 2 ∧
        outline.tests[0]? = some (1, "Manual test - order") ∧ outline.tests[1]? = some (2, "login")) ∧
      (testAction {} (sampleDeclaration "order" [sampleOptions ["@manual", "@slow"]])).isManual =
        (testAction {} (sampleDeclaration "order" [sampleOptions ["@slow", "@manual"]])).isManual := by
  have accepted : acceptTree "javascript" sampleMarkedTree = .ok sampleMarkedTree := rfl
  obtain ⟨⟨graph, outline, drawn, read, length, labels⟩, same, -⟩ := tests_marked accepted sample_started
  have labelled (index : Nat) (name : String) (manual : Bool)
      (declared : (declarations {} (callsWithin (.root sampleMarkedTree)))[index]?.bind (fun call =>
        (firstValue? call.node).bind fun name => (classify {} call).action?.map fun action =>
          (name, action.isManual)) = some (name, manual)) :
      outline.tests[index]? =
        some (index + 1, escapeLabel (if manual then "Manual test - " ++ name else name)) := by
    obtain ⟨call, isThere, said⟩ := Option.bind_eq_some_iff.mp declared
    obtain ⟨own, action, isName, found, label, -⟩ := labels index call isThere
    simp only [isName, found, Reading.action?, Option.bind_some, Option.map_some, Option.some.injEq,
      Prod.mk.injEq] at said
    obtain ⟨rfl, rfl⟩ := said
    exact label
  refine ⟨accepted, sample_started, ⟨graph, outline, drawn, read, length.trans ?_, ?_, ?_⟩, same _ _ ?_⟩
  · decide +kernel
  · exact labelled 0 "order" true (by decide +kernel)
  · exact labelled 1 "login" false (by decide +kernel)
  · refine .rewritten rfl rfl rfl rfl (.changed ?_ ?_ rfl rfl rfl rfl (.reordered (.swap _ _ _)) .nil)
    · exact ⟨rfl, _, rfl, .name rfl rfl⟩
    · exact ⟨rfl, _, rfl, .name rfl rfl⟩

end TestFlow

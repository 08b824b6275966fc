import TestFlow.Proofs.Placement
import TestFlow.Proofs.Syntax.Thinning

/-! # Comments do not change a diagram

Whatever loose comments are left out of a tree, every call that remains is classified as before, and a fault
is reported as before. So the outcome is the same: the diagram with its counts and notes, or the failure.
-/

namespace TestFlow

open Syntax

variable {full thin : Syntax.Node}

/-! ## What a call is read as -/

theorem blind_firstValue? : Blind firstValue? :=
  blind_stringValue?.argument 0

theorem blind_secondValue? : Blind secondValue? :=
  blind_stringValue?.argument 1

theorem blind_isTestDeclaration (settings : Settings) : Blind (isTestDeclaration settings) := by
  intro full thin thinned
  rcases cases_of_rel (thinned.child? .function) with
    ⟨found, foundToo⟩ | ⟨callee, left, found, foundToo, related⟩
  · simp only [isTestDeclaration, Node.callee?, found, foundToo]
  · simp only [isTestDeclaration, Node.callee?, found, foundToo, blind_kind _ _ related,
      blind_text _ _ related, blind_firstValue? _ _ thinned]

theorem blind_tagTexts : Blind tagTexts := by
  intro full thin thinned
  rw [tagTexts, tagTexts, blind_kind _ _ thinned, blind_stringValue? _ _ thinned, Node.namedChildren,
    Node.namedChildren, List.filterMap_filter, List.filterMap_filter]
  congr 1
  apply thinned.siblings.filterMap_eq
  · intro full thin related
    rw [blind_named _ _ related, blind_stringValue? _ _ related]
  · intro _ child loose
    obtain ⟨comment, -⟩ := Node.isLooseComment_iff.mp loose
    simp [Node.stringValue?, Node.isStringLike, show child.kind = .comment from comment]

theorem isManual_of_rel (settings : Settings) {full thin : Option Syntax.Node}
    (rel : Option.Rel Thinned full thin) : isManual settings thin = isManual settings full := by
  rcases cases_of_rel rel with ⟨rfl, rfl⟩ | ⟨options, left, rfl, rfl, related⟩
  · rfl
  · rcases cases_of_rel (related.objectProperty? "tag") with
      ⟨found, foundToo⟩ | ⟨tag, leftTag, found, foundToo, relatedTag⟩
    · simp only [isManual, found, foundToo, blind_kind _ _ related]
    · simp only [isManual, found, foundToo, blind_kind _ _ related, blind_tagTexts _ _ relatedTag]

theorem blind_readTest (settings : Settings) : Blind (readTest settings) := by
  intro full thin thinned
  have manual := isManual_of_rel settings (rel_getElem? thinned.callArguments 1)
  rw [readTest, blind_firstValue? _ _ thinned, manual, ← readTest]

theorem blind_queryText? : Blind queryText? := by
  intro full thin thinned
  have first := blind_stringValue?.argument 0 full thin thinned
  rcases cases_of_rel (thinned.child? .function) with
    ⟨found, foundToo⟩ | ⟨callee, left, found, foundToo, related⟩
  · simp only [queryText?, Node.callee?, found, foundToo]
  · simp only [queryText?, Node.callee?, found, foundToo, blind_kind _ _ related,
      List.head?_eq_getElem?, first]

theorem blind_receiverSelector? : Blind receiverSelector? := by
  intro full thin thinned
  rcases cases_of_rel (thinned.child? .object) with
    ⟨found, foundToo⟩ | ⟨receiver, left, found, foundToo, related⟩
  · simp only [receiverSelector?, found, foundToo]
  · simp only [receiverSelector?, found, foundToo, blind_kind _ _ related, blind_queryText? _ _ related]

theorem readPageAction_of_thinned (method : PageMethod) {callee leftCallee call left : Syntax.Node}
    (callees : Thinned callee leftCallee) (calls : Thinned call left) :
    readPageAction method leftCallee left = readPageAction method callee call :=
  readPageAction_congr method (blind_receiverSelector? _ _ callees) (blind_firstValue? _ _ calls)
    (blind_secondValue? _ _ calls)

/-! ## What an assertion is about -/

theorem blind_rootName : Blind rootName := by
  intro full
  induction full using rootName.induct with
  | case1 chain isMember inner found ih =>
    intro thin thinned
    have leftMember := (blind_kind _ _ thinned).trans isMember
    rcases cases_of_rel (thinned.child? .object) with ⟨gone, -⟩ | ⟨object, left, met, metToo, related⟩
    · rw [found] at gone
      cases gone
    · obtain rfl := Option.some.inj (found.symm.trans met)
      rw [rootName_of_member isMember, rootName_of_member leftMember, met, metToo, Option.map_some,
        Option.map_some, ih left related]
  | case2 chain isMember noObject =>
    intro thin thinned
    have leftMember := (blind_kind _ _ thinned).trans isMember
    rcases cases_of_rel (thinned.child? .object) with ⟨-, gone⟩ | ⟨object, left, met, -, -⟩
    · rw [rootName_of_member isMember, rootName_of_member leftMember, noObject, gone]
    · rw [noObject] at met
      cases met
  | _ chain noMember _ =>
    intro thin thinned
    have leftNoMember := (blind_kind _ _ thinned).trans_ne noMember
    rw [rootName_of_no_member noMember, rootName_of_no_member leftNoMember, blind_kind _ _ thinned,
      blind_text _ _ thinned]

theorem blind_detail? : Blind detail? := by
  intro full thin thinned
  simp only [detail?, blind_kind _ _ thinned, blind_queryText? _ _ thinned, blind_rootName _ _ thinned,
    blind_stringValue? _ _ thinned, blind_regexText _ _ thinned]

theorem blind_predicateDetail? : Blind predicateDetail? := by
  intro full thin thinned
  rcases cases_of_rel (rel_getElem? thinned.callArguments 0) with
    ⟨found, foundToo⟩ | ⟨argument, left, found, foundToo, related⟩
  · simp only [predicateDetail?, List.head?_eq_getElem?, found, foundToo]
  · simp only [predicateDetail?, List.head?_eq_getElem?, found, foundToo, blind_kind _ _ related,
      blind_detail? _ _ related]

/-! ## Predicates chained onto a call -/

theorem blind_calledName? : Blind calledName? := by
  intro full thin thinned
  rw [calledName?, blind_kind _ _ thinned, blind_memberProperty? _ _ thinned, ← calledName?]

/-- The same predicate, in a call that is thinned. -/
structure ThinnedPredicate (full thin : ChainedPredicate) : Prop where
  label : thin.label = full.label
  call : Thinned full.call.node thin.call.node

theorem predicateAbove?_of_thinned {path left : List Frame} (paths : List.Forall₂ ThinnedFrame path left)
    (isNegated : Bool) (thinned : Thinned full thin) :
    Option.Rel ThinnedPredicate (predicateAbove? isNegated full path)
      (predicateAbove? isNegated thin left) := by
  induction paths generalizing isNegated full thin with
  | nil => exact .none
  | cons frames _ ih =>
    have name := blind_memberProperty? _ _ frames.parent
    simp only [predicateAbove?, frames.isField, blind_kind _ _ frames.parent, name,
      blind_calledName? _ _ thinned]
    split
    · exact ih _ frames.parent
    · split
      · cases calledName? full with
        | none => exact .none
        | some name => exact .some ⟨rfl, frames.parent⟩
      · split
        · exact ih _ frames.parent
        · exact .none

theorem readAssertion_of_thinned {full thin : Focus} (thinned : ThinnedFocus full thin) :
    readAssertion thin = readAssertion full := by
  have chained := predicateAbove?_of_thinned thinned.path false thinned.node
  have subject := blind_detail?.argument 0 _ _ thinned.node
  simp only [readAssertion, chainedPredicate?, List.head?_eq_getElem?, subject,
    blind_text _ _ thinned.node]
  generalize predicateAbove? false full.node full.path = found at chained ⊢
  generalize predicateAbove? false thin.node thin.path = met at chained ⊢
  cases chained with
  | none => rfl
  | some related => simp only [related.label, blind_predicateDetail? _ _ related.call]

/-- A call is classified as before. -/
theorem classify_of_thinned (settings : Settings) {full thin : Focus} (thinned : ThinnedFocus full thin) :
    classify settings thin = classify settings full := by
  rcases cases_of_rel (thinned.node.child? .function) with
    ⟨found, foundToo⟩ | ⟨callee, left, found, foundToo, related⟩
  · simp only [classify, Node.callee?, found, foundToo]
  · simp only [classify, Node.callee?, found, foundToo, blind_kind _ _ related, blind_text _ _ related,
      blind_memberProperty? _ _ related, blind_readTest settings _ _ thinned.node,
      readAssertion_of_thinned thinned]
    simp only [readPageAction_of_thinned _ related thinned.node]

/-! ## The outcome -/

theorem draw_of_thinned (settings : Settings) (given : Option String) (thinned : Thinned full thin) :
    draw settings given thin = draw settings given full := by
  -- the events differ, since they hold the calls; their effects on a builder do not
  have effects : (testEvents settings thin).map (fun event builder => drawEvent settings builder event) =
      (testEvents settings full).map fun event builder => drawEvent settings builder event := by
    rw [testEvents, testEvents, events_eq, events_eq]
    apply (ThinnedFocus.root thinned).visits_map (blind_isTestDeclaration settings)
    intro full thin related
    refine ⟨?_, rfl⟩
    funext builder
    rw [drawEvent, classify_of_thinned settings related, ← drawEvent]
  have folded (root : Syntax.Node) (builder : Diagram.Builder) :
      (testEvents settings root).foldlM (drawEvent settings) builder =
        ((testEvents settings root).map fun event builder => drawEvent settings builder event).foldlM
          (fun builder effect => effect builder) builder := by
    rw [List.foldlM_map]
  simp only [draw, folded, effects]

def sampleComment : Syntax.Node :=
  .plain .comment "// to the start" []

/-- A visit with a comment before it and one among its arguments. -/
def sampleCommented : Syntax.Node :=
  .plain (.other "program") ""
    [sampleComment,
      sampleCall
        (.plain .memberExpression "" [(Node.plain .propertyIdentifier "goto" []).withField .property])
        [sampleComment, sampleString "/a"]]

/-- Leaving out comments, any of those that stand loose outside of strings, changes no outcome. -/
theorem flowOfTree_of_thinned (settings : Settings) (given : Option String) (language : String)
    (thinned : Thinned full thin) :
    flowOfTree settings given language thin = flowOfTree settings given language full := by
  have drawn := draw_of_thinned settings given thinned
  have fault := blind_fault? _ _ thinned
  simp only [flowOfTree, acceptTree, checkTree, fault]
  cases Source.Language.ofName language with
  | error failure => rfl
  | ok known =>
    cases full.fault? with
    | some fault => rfl
    | none => exact drawn

/-- The address is the first argument, with the comment before it as without. -/
theorem flow_of_sample_commented :
    Thinned sampleCommented (.plain (.other "program") "" [sampleGoto "/a"]) ∧
      flowOfTree {} none "javascript" (.plain (.other "program") "" [sampleGoto "/a"]) =
        flowOfTree {} none "javascript" sampleCommented := by
  have thinned : Thinned sampleCommented (.plain (.other "program") "" [sampleGoto "/a"]) := by
    refine .node (.dropped rfl (.kept (.node (.kept (.refl _) (.kept (.node ?_) .nil))) .nil))
    exact .dropped rfl (.kept (.refl _) .nil)
  exact ⟨thinned, flowOfTree_of_thinned {} none "javascript" thinned⟩

end TestFlow

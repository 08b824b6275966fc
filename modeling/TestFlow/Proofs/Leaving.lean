import TestFlow.Proofs.Placement

/-! # Leaving a test declaration

A walk leaves the calls that `isTestDeclaration` picks, and a builder opens a test for the calls that
`classify` reads as the start of one. Both pick the same calls, so that a test is never closed for a call
that did not open it: on leaving a declaration its own test is open, or a declaration inside has closed it
long before and none is open.
-/

namespace TestFlow

open Syntax Diagram

section

variable {settings : Settings} {standing : Standing} {builder : Builder}

theorem isTestDeclaration_iff (settings : Settings) (call : Focus) :
    isTestDeclaration settings call.node = true ↔
      ∃ action, classify settings call = .action action ∧ action.kind = .testStart := by
  constructor
  · exact fun declares => ⟨_, classify_declaration declares, rfl⟩
  · rintro ⟨action, found, opens⟩
    cases declares : isTestDeclaration settings call.node with
    | true => rfl
    | false =>
      obtain ⟨kind, isStep⟩ := isStep_of_classify declares found
      rw [isStep] at opens
      cases opens

/-- Entering a declaration opens a test that was not there before. -/
theorem Agrees.opened {opened : Builder} {test : Focus} (agrees : Agrees standing builder)
    (declares : isTestDeclaration settings test.node = true)
    (inside : Agrees (standing.next settings (.enter test)) opened) :
    opened.tests = builder.tests + 1 ∧ opened.region = .test opened.tests := by
  have entered : standing.next settings (.enter test) =
      ⟨standing.declared ++ [test], .test (standing.declared.length + 1)⟩ := if_pos declares
  rw [entered] at inside
  have counted : opened.tests = standing.declared.length + 1 := by
    rw [inside.tests, List.length_append, List.length_singleton]
  rw [inside.region, counted, agrees.tests]
  exact ⟨rfl, rfl⟩

theorem Standing.beyond_region (standing : Standing) (calls : List Focus) :
    (standing.beyond settings calls).region =
      if declarations settings calls = [] then standing.region else .topLevel := by
  cases tests : declarations settings calls <;> simp [beyond, tests]

/-- Back from the parts of a call, a walk is in the region that it went in with, or at top level if a part
declares a test. -/
theorem Standing.after_parts_region (standing : Standing) (test : Focus) :
    (standing.after settings (test.children.flatMap (Focus.visits (isTestDeclaration settings)))).region =
      if declarations settings (test.children.flatMap callsWithin) = [] then standing.region
      else .topLevel := by
  rw [after_siblings fun child _ standing => standing.after_visits settings child, beyond_region]

/-- The calls below a node declare no test unless a call of its subtree other than itself does. -/
theorem declarations_below_eq_nil (settings : Settings) (test : Focus) :
    declarations settings (test.children.flatMap callsWithin) = [] ↔
      ∀ call ∈ test.subtree, call ≠ test → call.node.isCall = true →
        isTestDeclaration settings call.node = false := by
  have below (call : Focus) :
      call ∈ test.children.flatMap Focus.subtree ↔ call ∈ test.subtree ∧ call ≠ test := by
    rw [Focus.subtree_eq, List.mem_cons]
    constructor
    · exact fun inside => ⟨.inr inside, fun same => test.not_mem_below (same ▸ inside)⟩
    · rintro ⟨member, other⟩
      exact member.resolve_left other
  have calls : test.children.flatMap callsWithin =
      (test.children.flatMap Focus.subtree).filter (·.node.isCall) := List.filter_flatMap.symm
  rw [declarations, calls, List.filter_eq_nil_iff]
  simp only [List.mem_filter, below, Bool.not_eq_true, and_imp]

/-- A walk leaves the test declarations of a tree, and nothing else. -/
theorem leave_mem_testEvents (settings : Settings) (root : Syntax.Node) (test : Focus) :
    .leave test ∈ testEvents settings root ↔ test ∈ declarations settings (callsWithin (.root root)) := by
  have declared : test ∈ declarations settings (callsWithin (.root root)) ↔
      (test ∈ (Focus.root root).subtree ∧ test.node.isCall = true) ∧
        isTestDeclaration settings test.node = true := by
    simp only [declarations, callsWithin, List.mem_filter]
  rw [testEvents, events_eq, declared]
  constructor
  · intro left
    obtain ⟨before, after, split⟩ := List.append_of_mem left
    obtain ⟨inTree, isCall, declares, -⟩ := Focus.visits_before_leave split
    exact ⟨⟨inTree, isCall⟩, declares⟩
  · rintro ⟨⟨inTree, isCall⟩, declares⟩
    exact Focus.leave_mem_visits inTree isCall declares

end

/-- The calls that are read as the start of a test are those that a walk leaves. Whatever the tree, drawing
it comes to an end with no test open. Whenever the walk leaves a call, the call has opened a test of its own
on entering, and that test is open or none is; it is open just if no other call in the subtree declares a
test. -/
theorem leave_meets_own_test (settings : Settings) (given : Option String) (root : Syntax.Node) :
    (∀ call : Focus, isTestDeclaration settings call.node = true ↔
      ∃ action, classify settings call = .action action ∧ action.kind = .testStart) ∧
    (∀ test : Focus, .leave test ∈ testEvents settings root ↔
      test ∈ declarations settings (callsWithin (.root root))) ∧
    ∀ builder, Builder.start settings given = .ok builder →
      (∃ drawn, (testEvents settings root).foldlM (drawEvent settings) builder = .ok drawn ∧
        drawn.isInTest = false ∧
        ∀ language, acceptTree language root = .ok root →
          flowOfTree settings given language root = .ok (.ofBuilder drawn.finish)) ∧
      ∀ before test after, testEvents settings root = before ++ .leave test :: after →
        ∃ early within entered opened left,
          before = early ++ .enter test :: within ∧
          early.foldlM (drawEvent settings) builder = .ok entered ∧
          drawEvent settings entered (.enter test) = .ok opened ∧
          opened.tests = entered.tests + 1 ∧ opened.region = .test opened.tests ∧
          within.foldlM (drawEvent settings) opened = .ok left ∧
          before.foldlM (drawEvent settings) builder = .ok left ∧
          (left.region = .test opened.tests ∨ left.isInTest = false) ∧
          (left.region = .test opened.tests ↔
            ∀ call ∈ test.subtree, call ≠ test → call.node.isCall = true →
              isTestDeclaration settings call.node = false) := by
  refine ⟨isTestDeclaration_iff settings, leave_mem_testEvents settings root, fun builder started => ?_⟩
  have agrees := Agrees.of_start started
  have visits : testEvents settings root = (Focus.root root).visits (isTestDeclaration settings) :=
    events_eq root
  constructor
  · obtain ⟨drawn, folded, reached⟩ := agrees.draw settings (testEvents settings root)
    refine ⟨drawn, folded, ?_, fun language accepted => ?_⟩
    · rw [drawn.isInTest_eq, reached.region, visits, Standing.after_visits, Standing.beyond_region, ite_self]
      rfl
    · simp only [flowOfTree, accepted, draw, started, folded, bind, Except.bind, pure, Except.pure]
  · intro before test after split
    rw [visits] at split
    obtain ⟨-, -, declares, early, walked⟩ := Focus.visits_before_leave split
    obtain ⟨entered, drawnEarly, atEntry⟩ := agrees.draw settings early
    obtain ⟨opened, drawnEntry, inside⟩ := atEntry.drawEvent settings (.enter test)
    obtain ⟨left, drawnWithin, atLeave⟩ :=
      inside.draw settings (test.children.flatMap (Focus.visits (isTestDeclaration settings)))
    obtain ⟨counted, own⟩ := atEntry.opened declares inside
    -- Nothing but a declaration among the parts takes the builder out of the test.
    have region : left.region =
        if declarations settings (test.children.flatMap callsWithin) = [] then .test opened.tests
        else .topLevel := by
      rw [atLeave.region, Standing.after_parts_region, ← inside.region, own]
    have drawnBefore : before.foldlM (drawEvent settings) builder = .ok left := by
      rw [walked, List.foldlM_append, drawnEarly]
      change (Event.enter test :: _).foldlM (drawEvent settings) entered = .ok left
      rw [List.foldlM_cons, drawnEntry]
      exact drawnWithin
    refine ⟨early, _, entered, opened, left, walked, drawnEarly, drawnEntry, counted, own, drawnWithin,
      drawnBefore, ?_, ?_⟩
    · rw [left.isInTest_eq, region]
      split
      · exact .inl rfl
      · exact .inr rfl
    · rw [region, ← declarations_below_eq_nil]
      split <;> simp_all

/-- The outer test of the sample. -/
def sampleOuter : Focus :=
  (Focus.root sampleTree).children.get ⟨0, by decide⟩

/-- The inner test has closed the outer one, so that none is open when the walk leaves the outer one. -/
theorem leave_of_sample_tree :
    Builder.start {} none = .ok sampleBuilder ∧
      isTestDeclaration {} sampleOuter.node = true ∧
      ∃ before after left,
        testEvents {} sampleTree = before ++ .leave sampleOuter :: after ∧
        before.foldlM (drawEvent {}) sampleBuilder = .ok left ∧ left.isInTest = false := by
  have atTop : (Focus.root sampleTree).children[0]? = some sampleOuter := rfl
  obtain ⟨arguments, inner, inOuter, inArguments, other, isCall, declares⟩ :
      ∃ arguments inner, sampleOuter.children[1]? = some arguments ∧ arguments.children[2]? = some inner ∧
        inner ≠ sampleOuter ∧ inner.node.isCall = true ∧ isTestDeclaration {} inner.node = true :=
    ⟨_, _, rfl, rfl, fun same => absurd (congrArg (·.path.length) same) (by decide), rfl, rfl⟩
  have inSubtree : inner ∈ sampleOuter.subtree :=
    Focus.mem_subtree_of_child (List.mem_of_getElem? inOuter)
      (Focus.mem_subtree_of_child (List.mem_of_getElem? inArguments) inner.self_mem_subtree)
  have outerDeclared : sampleOuter ∈ declarations {} (callsWithin (.root sampleTree)) := by
    have inTree :=
      Focus.mem_subtree_of_child (List.mem_of_getElem? atTop) sampleOuter.self_mem_subtree
    exact List.mem_filter.mpr ⟨List.mem_filter.mpr ⟨inTree, rfl⟩, rfl⟩
  obtain ⟨-, leaves, drawing⟩ := leave_meets_own_test {} none sampleTree
  obtain ⟨before, after, split⟩ := List.append_of_mem ((leaves sampleOuter).mpr outerDeclared)
  obtain ⟨-, leaving⟩ := drawing sampleBuilder sample_started
  obtain ⟨_, _, _, _, left, -, -, -, -, -, -, drawn, own, alone⟩ := leaving before sampleOuter after split
  refine ⟨sample_started, rfl, before, after, left, split, drawn, own.resolve_left fun stillOpen => ?_⟩
  rw [alone.mp stillOpen inner inSubtree other isCall] at declares
  cases declares

end TestFlow

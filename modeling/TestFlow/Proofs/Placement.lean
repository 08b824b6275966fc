import TestFlow.Proofs.Diagram.ReadBack
import TestFlow.Proofs.Diagram.Sharing
import TestFlow.Proofs.Drawing
import TestFlow.Proofs.Home

/-! # Every step is drawn at home

The builder stands in the region of the walk: it opens a test where the walk enters a declaration and is
at top level where the walk leaves one. So the diagram of a tree has one test for each declaration, and
each call that is a step is drawn once, in preorder, in its home.
-/

namespace TestFlow

open Syntax Diagram

/-- The action that a test declaration stands for. -/
def testAction (settings : Settings) (call : Syntax.Node) : Action :=
  { kind := .testStart, target := (firstValue? call).getD "",
    isManual := isManual settings call.callArguments[1]? }

/-- The operation that a call in its region asks for, if it is an action. -/
def stepAt? (settings : Settings) (place : Focus × Region) : Option (Operation × Region) :=
  (classify settings place.1).action?.map fun action => (.add action, place.2)

/-- The steps among moments, each with its region. -/
def stepsOf (moments : List Moment) : List (Operation × Region) :=
  (moments.filter (·.operation.isStep)).map fun moment => (moment.operation, moment.region)

section

variable {settings : Settings} {call : Focus} {action : Action}

theorem classify_declaration (declares : isTestDeclaration settings call.node = true) :
    classify settings call = .action (testAction settings call.node) := by
  unfold isTestDeclaration at declares
  split at declares
  · cases declares
  · rename_i callee found
    simp only [Bool.and_eq_true, decide_eq_true_eq, Option.isSome_iff_exists] at declares
    obtain ⟨⟨isName, isTest⟩, name, given⟩ := declares
    simp only [classify, found, isName, isTest, if_true, readTest, given, testAction, Option.getD_some]

theorem isStep_of_classify (plain : isTestDeclaration settings call.node = false)
    (found : classify settings call = .action action) : ∃ kind, action.kind = .step kind := by
  rcases classify_cases found with ⟨declares, -⟩ | asserted | ⟨method, callee, -, rfl⟩
  · rw [plain] at declares
    cases declares
  · exact ⟨_, kind_of_readAssertion asserted⟩
  · cases method <;> exact ⟨_, rfl⟩

end

/-- A builder that stands where the walk stands. -/
structure Agrees (standing : Standing) (builder : Builder) : Prop where
  region : builder.region = standing.region
  tests : builder.tests = standing.declared.length
  running : builder.phase ≠ .finished

theorem Agrees.of_start {settings : Settings} {given : Option String} {builder : Builder}
    (started : Builder.start settings given = .ok builder) : Agrees {} builder := by
  rw [Builder.start_eq_fresh started]
  exact ⟨rfl, rfl, by simp [Builder.fresh]⟩

/-- What a builder does of events, told in terms of the walk. -/
structure Draws (settings : Settings) (standing : Standing) (builder : Builder) (events : List Event) :
    Prop where
  agrees : Agrees (standing.after settings events) (builder.run (events.filterMap (request? settings)))
  steps : stepsOf (builder.moments (events.filterMap (request? settings))) =
    (standing.places settings events).filterMap (stepAt? settings)
  opened : (standing.after settings events).declared.map (fun call => testAction settings call.node) =
    standing.declared.map (fun call => testAction settings call.node) ++
      (events.filterMap (request? settings)).filterMap Operation.opened?

section

variable {settings : Settings} {standing : Standing} {builder other : Builder}

theorem Draws.append {first second : List Event} (early : Draws settings standing builder first)
    (late : Draws settings (standing.after settings first)
      (builder.run (first.filterMap (request? settings))) second) :
    Draws settings standing builder (first ++ second) := by
  constructor
  · rw [Standing.after_append, List.filterMap_append, Builder.run_append]
    exact late.agrees
  · rw [Standing.places_append, List.filterMap_append, Builder.moments_append, stepsOf, List.filter_append,
      List.map_append, List.filterMap_append, ← early.steps, ← late.steps, stepsOf, stepsOf]
  · rw [Standing.after_append, late.opened, early.opened, List.filterMap_append, List.filterMap_append,
      List.append_assoc]

theorem draws_leave (agrees : Agrees standing builder) (call : Focus) :
    Draws settings standing builder [.leave call] := by
  have asked : [Event.leave call].filterMap (request? settings) = [.endTest] := rfl
  have ran : builder.run [.endTest] = builder.closeTest :=
    Builder.attempt_of_perform (Builder.perform_endTest agrees.running)
  constructor
  · rw [asked, ran]
    exact ⟨builder.closeTest_region, builder.closeTest_tests.trans agrees.tests,
      builder.closeTest_running agrees.running⟩
  · rfl
  · exact (List.append_nil _).symm

theorem draws_declaration (agrees : Agrees standing builder) {call : Focus}
    (declares : isTestDeclaration settings call.node = true) :
    Draws settings standing builder [.enter call] := by
  have asked : [Event.enter call].filterMap (request? settings) =
      [.add (testAction settings call.node)] := by
    simp [request?, classify_declaration declares, Reading.action?]
  have opens : (Operation.add (testAction settings call.node)).opened? =
      some (testAction settings call.node) := rfl
  have ran : builder.run [.add (testAction settings call.node)] =
      builder.openTest (testAction settings call.node) :=
    Builder.attempt_of_perform (Builder.perform_opened agrees.running opens)
  have entered : standing.after settings [.enter call] =
      ⟨standing.declared ++ [call], .test (standing.declared.length + 1)⟩ := if_pos declares
  constructor
  · rw [asked, ran, entered]
    refine ⟨?_, ?_, ?_⟩
    · rw [Builder.openTest_region, agrees.tests]
    · rw [Builder.openTest_tests, agrees.tests, List.length_append, List.length_singleton]
    · rw [Builder.openTest_phase]
      simp
  · have here : standing.place? settings (.enter call) = none := if_pos declares
    rw [asked, Standing.places, here]
    rfl
  · rw [asked, entered, List.map_append]
    rfl

theorem draws_call (agrees : Agrees standing builder) {call : Focus}
    (plain : isTestDeclaration settings call.node = false) :
    Draws settings standing builder [.enter call] := by
  have stays : standing.after settings [.enter call] = standing := if_neg (by simp [plain])
  have here : standing.places settings [.enter call] = [(call, standing.region)] := by
    simp [Standing.places, Standing.place?, plain]
  cases found : (classify settings call).action? with
  | none =>
    have asked : [Event.enter call].filterMap (request? settings) = [] := by simp [request?, found]
    constructor
    · rw [asked, stays]
      exact agrees
    · rw [asked, here]
      simp [stepsOf, stepAt?, found, Builder.moments]
    · rw [asked, stays]
      exact (List.append_nil _).symm
  | some action =>
    have asked : [Event.enter call].filterMap (request? settings) = [.add action] := by
      simp [request?, found]
    have classified : classify settings call = .action action := by
      cases reading : classify settings call <;> simp_all [Reading.action?]
    obtain ⟨kind, isStep⟩ := isStep_of_classify plain classified
    have done := Builder.perform_step agrees.running isStep
    have ran : builder.run [.add action] = builder.takeStep kind action := Builder.attempt_of_perform done
    constructor
    · rw [asked, ran, stays]
      exact ⟨(builder.takeStep_region kind action).trans agrees.region,
        (builder.takeStep_tests kind action).trans agrees.tests,
        builder.takeStep_running _ _ agrees.running⟩
    · rw [asked, here]
      simp [stepsOf, stepAt?, found, Builder.moments, Operation.isStep_of_kind isStep, Moment.region,
        Builder.attempt_of_perform done, Builder.takeStep_region, agrees.region]
    · rw [asked, stays]
      simp [Operation.opened?_of_kind isStep]

theorem draws_event (settings : Settings) (agrees : Agrees standing builder) (event : Event) :
    Draws settings standing builder [event] := by
  cases event with
  | leave call => exact draws_leave agrees call
  | enter call =>
    cases declares : isTestDeclaration settings call.node with
    | true => exact draws_declaration agrees declares
    | false => exact draws_call agrees declares

/-- Event by event the builder goes along with the walk. -/
theorem draws_events (settings : Settings) (agrees : Agrees standing builder) (events : List Event) :
    Draws settings standing builder events := by
  induction events generalizing standing builder with
  | nil => exact ⟨agrees, rfl, (List.append_nil _).symm⟩
  | cons event rest ih =>
    have first := draws_event settings agrees event
    exact first.append (ih first.agrees)

theorem Agrees.of_silenced (agrees : Agrees standing other) (same : builder.silenced = other.silenced) :
    Agrees standing builder := by
  have region : builder.silenced.region = other.silenced.region := congrArg Builder.region same
  have tests : builder.silenced.tests = other.silenced.tests := congrArg Builder.tests same
  have phase : builder.silenced.phase = other.silenced.phase := congrArg Builder.phase same
  exact ⟨region.trans agrees.region, tests.trans agrees.tests, fun done => agrees.running (phase ▸ done)⟩

/-- An event can always be drawn, and the builder goes along with the walk. -/
theorem Agrees.drawEvent (settings : Settings) (agrees : Agrees standing builder) (event : Event) :
    ∃ next, drawEvent settings builder event = .ok next ∧ Agrees (standing.next settings event) next := by
  obtain ⟨next, drawn, -, effect⟩ := drawEvent_eq settings rfl agrees.running event
  have ran := (draws_event settings agrees event).agrees
  have asked : [event].filterMap (request? settings) = (request? settings event).toList := by
    cases found : request? settings event <;> simp [found]
  rw [asked] at ran
  exact ⟨next, drawn, ran.of_silenced effect⟩

/-- Events can always be drawn, and the builder goes along with the walk. -/
theorem Agrees.draw (settings : Settings) (agrees : Agrees standing builder) (events : List Event) :
    ∃ drawn, events.foldlM (TestFlow.drawEvent settings) builder = .ok drawn ∧
      Agrees (standing.after settings events) drawn := by
  induction events generalizing standing builder with
  | nil => exact ⟨builder, rfl, agrees⟩
  | cons event rest ih =>
    obtain ⟨next, drawn, along⟩ := agrees.drawEvent settings event
    obtain ⟨last, drawnRest, arrived⟩ := ih along
    refine ⟨last, ?_, arrived⟩
    rw [List.foldlM_cons, drawn]
    exact drawnRest

end

/-- What moments add is added by the steps among them. -/
theorem flatMap_steps {β : Type} {moments : List Moment} {added : Moment → List β}
    (silent : ∀ moment ∈ moments, moment.operation.isStep = false → added moment = []) :
    moments.flatMap added = (moments.filter (·.operation.isStep)).flatMap added := by
  induction moments with
  | nil => rfl
  | cons moment rest ih =>
    have later := ih fun other member => silent other (List.mem_cons_of_mem _ member)
    cases steps : moment.operation.isStep with
    | true => rw [List.filter_cons, if_pos steps, List.flatMap_cons, List.flatMap_cons, later]
    | false =>
      rw [List.filter_cons, if_neg (by simp [steps]), List.flatMap_cons,
        silent moment List.mem_cons_self steps, List.nil_append, later]

/-- The events of a tree go through its calls. -/
theorem follows_tree (settings : Settings) (root : Syntax.Node) :
    Follows settings {} (testEvents settings root) (callsWithin (.root root)) := by
  have fits : Standing.Fits {} (.root root) := ⟨rfl, fun _ member => (List.not_mem_nil member).elim⟩
  rw [testEvents, events_eq]
  exact follows_visits settings (.root root) fits

/-- A test is labelled with its name, behind the prefix if it is marked. -/
theorem numberedTests_getElem? {settings : Settings} {declared : List Focus} {index : Nat} {call : Focus}
    (isThere : declared[index]? = some call) (declares : isTestDeclaration settings call.node = true) :
    ∃ name, firstValue? call.node = some name ∧
      (numberedTests settings.manualPrefix (declared.map fun call => testAction settings call.node))[index]? =
        some (index + 1, escapeLabel
          (if isManual settings call.node.callArguments[1]? then settings.manualPrefix ++ name else name)) := by
  obtain ⟨name, given⟩ : ∃ name, firstValue? call.node = some name := by
    unfold isTestDeclaration at declares
    split at declares
    · cases declares
    · exact Option.isSome_iff_exists.mp (Bool.and_eq_true_iff.mp declares).2
  refine ⟨name, given, ?_⟩
  simp [numberedTests, isThere, testLabel, testAction, given]

/-- The tests of the drawn outline are those that the tree declares. -/
theorem outlineOf_tests_of_tree {settings : Settings} {given : Option String} {builder : Builder}
    (started : Builder.start settings given = .ok builder) (root : Syntax.Node) :
    (outlineOf settings.manualPrefix (builder.moments (requests settings root))).tests =
      numberedTests settings.manualPrefix
        ((declarations settings (callsWithin (.root root))).map fun call => testAction settings call.node) := by
  have opened := (draws_events settings (Agrees.of_start started) (testEvents settings root)).opened
  rw [(follows_tree settings root).after, Standing.beyond_declared] at opened
  rw [outlineOf_tests]
  exact congrArg _ opened.symm

/-- A call of a callee with arguments. -/
def sampleCall (callee : Syntax.Node) (arguments : List Syntax.Node) : Syntax.Node :=
  .plain .callExpression ""
    [callee.withField .function, (Node.plain .arguments "" arguments).withField .arguments]

def sampleString (text : String) : Syntax.Node :=
  .plain .string "" [.plain (.other "string_fragment") text []]

def sampleGoto (address : String) : Syntax.Node :=
  sampleCall
    (.plain .memberExpression "" [(Node.plain .propertyIdentifier "goto" []).withField .property])
    [sampleString address]

def sampleDeclaration (name : String) (parts : List Syntax.Node) : Syntax.Node :=
  sampleCall (.plain .identifier "test" []) (sampleString name :: parts)

/-- A test with a test in it, and steps before, in and behind the inner test and behind the outer one. -/
def sampleTree : Syntax.Node :=
  .plain (.other "program") ""
    [sampleDeclaration "outer"
      [sampleGoto "/a", sampleDeclaration "inner" [sampleGoto "/b"], sampleGoto "/c"],
    sampleGoto "/d"]

/-- The diagram of a tree has one test for each call that declares one, numbered in preorder, with the
escaped name for its label, behind the prefix if it is done by hand. Every other call that is an action is a
step of the run, once and in preorder, and is linked to a node whose label tells of it. All that it adds is
added in its home: in the test declared last before it, if it stands in the subtree of that declaration, and
else at top level. -/
theorem steps_drawn_at_home {settings : Settings} {given : Option String} {language : String}
    {root : Syntax.Node} {builder : Builder} (accepted : acceptTree language root = .ok root)
    (started : Builder.start settings given = .ok builder) :
    ∃ graph outline steps,
      flowOfTree settings given language root = .ok graph ∧
      Outline.ofText? graph.text = some outline ∧
      outline.tests = numberedTests settings.manualPrefix
        ((declarations settings (callsWithin (.root root))).map fun call => testAction settings call.node) ∧
      graph.tests = (declarations settings (callsWithin (.root root))).length ∧
      (∀ index call, (declarations settings (callsWithin (.root root)))[index]? = some call →
        ∃ name, firstValue? call.node = some name ∧
          outline.tests[index]? = some (index + 1, escapeLabel
            (if isManual settings call.node.callArguments[1]? then settings.manualPrefix ++ name else name))) ∧
      graph.text = (builder.run (requests settings root)).finish.text ∧
      steps = (builder.moments (requests settings root)).filter (·.operation.isStep) ∧
      steps.map (fun step => (step.operation, step.region)) =
        (placesAfter settings [] (callsWithin (.root root))).filterMap (stepAt? settings) ∧
      outline.nodes = (steps.flatMap fun step => step.newNodes.map (step.region, ·)) ∧
      outline.edges = (steps.flatMap fun step => step.newEdges.map (step.region, ·)) ∧
      (∀ step ∈ steps, ∀ kind action, step.operation = .add action → action.kind = .step kind →
        ∃ id text, step.linked? = some id ∧ id.kind = kind ∧ Describes (stepKey kind action) text ∧
          ⟨id, escapeLabel text⟩ ∈ outline.nodes.map (·.2)) ∧
      ∀ call ∈ (Focus.root root).subtree, ∀ test ∈ (Focus.root root).subtree,
        (call.isWithin test = true ↔ call ∈ test.subtree) := by
  obtain ⟨graph, drawn, text, -, -, tests⟩ := flowOfTree_eq_run accepted started
  obtain ⟨history, -⟩ := History.of_run_started started (finish_not_mem_requests settings root)
  have agrees := Agrees.of_start started
  have follows := follows_tree settings root
  have draws := draws_events settings agrees (testEvents settings root)
  have declared : (Standing.after settings {} (testEvents settings root)).declared =
      declarations settings (callsWithin (.root root)) := by
    rw [follows.after, Standing.beyond_declared]
    rfl
  have silent : ∀ moment ∈ builder.moments (requests settings root), moment.operation.isStep = false →
      moment.newNodes = [] ∧ moment.newEdges = [] :=
    fun moment member still => (history.move_of_mem member).2.1.adds_nothing still
  refine ⟨graph, outlineOf settings.manualPrefix (builder.moments (requests settings root)), _, drawn,
    ?_, outlineOf_tests_of_tree started root, ?_, ?_, text, rfl, ?_, ?_, ?_, ?_, ?_⟩
  · rw [text]
    exact history.ofText?_finish
  · have opened := draws.agrees.tests
    rw [declared] at opened
    rw [tests, ← opened]
    exact Builder.closeTest_tests _
  · intro index call isThere
    have declares := (List.mem_filter.mp (List.mem_of_getElem? isThere)).2
    rw [outlineOf_tests_of_tree started root]
    exact numberedTests_getElem? isThere declares
  · have placed := follows.places
    rw [← placed]
    exact draws.steps
  · exact flatMap_steps fun moment member still => by simp [(silent moment member still).1]
  · exact flatMap_steps fun moment member still => by simp [(silent moment member still).2]
  · intro step member kind action asked isStep
    have declared := history.linked_described (List.mem_filter.mp member).1 asked isStep
    rw [outlineOf_nodes]
    rwa [history.nodes_eq] at declared
  · exact fun call inTree test testInTree => Focus.isWithin_iff_mem_subtree inTree testInTree

/-- The step behind the inner test is at top level, for all that it stands in the outer one. -/
theorem steps_of_sample_tree :
    acceptTree "javascript" sampleTree = .ok sampleTree ∧ Builder.start {} none = .ok sampleBuilder ∧
      ∃ (graph : Graph) (outline : Outline) (steps : List Moment),
        flowOfTree {} none "javascript" sampleTree = .ok graph ∧
        Outline.ofText? graph.text = some outline ∧ outline.tests = [(1, "outer"), (2, "inner")] ∧
        outline.nodes = (steps.flatMap fun step => step.newNodes.map (step.region, ·)) ∧
        steps.map (fun step => (step.operation, step.region)) =
          [(.add { kind := .step .navigate, target := "/a" }, .test 1),
            (.add { kind := .step .navigate, target := "/b" }, .test 2),
            (.add { kind := .step .navigate, target := "/c" }, .topLevel),
            (.add { kind := .step .navigate, target := "/d" }, .topLevel)] := by
  have accepted : acceptTree "javascript" sampleTree = .ok sampleTree := rfl
  obtain ⟨graph, outline, steps, drawn, read, tests, -, -, -, -, places, nodes, -⟩ :=
    steps_drawn_at_home accepted sample_started
  refine ⟨accepted, sample_started, graph, outline, steps, drawn, read, tests.trans ?_, nodes,
    places.trans ?_⟩
  · decide +kernel
  · decide +kernel

end TestFlow

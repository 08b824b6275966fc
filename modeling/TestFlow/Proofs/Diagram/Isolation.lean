import TestFlow.Proofs.Diagram.Renaming

/-! # Tests do not see what came before them

With nodes shared within tests, a test adds to any diagram what it adds to an empty one: only the numbers of
its nodes, and its own, go on from those already there. Two builders take the test, one alone and one later
in a run. Once both have opened it they hold the same up to a shift of node numbers, and each step keeps it
so; what was shared, drawn or last visited before is gone or out of reach.
-/

namespace TestFlow.Diagram

/-! ## Numbers that go on -/

/-- The name of a node, with its number behind that many others. -/
def NodeId.shift (nodes : Nat) (id : NodeId) : NodeId :=
  { id with number := id.number + nodes }

theorem NodeId.shift_injective (nodes : Nat) : Function.Injective (NodeId.shift nodes) := by
  rintro ⟨kind, number⟩ ⟨otherKind, otherNumber⟩ same
  simp only [shift, mk.injEq, Nat.add_right_cancel_iff] at same
  rw [same.1, same.2]

/-- A line behind that many nodes and tests; nothing but its names changes. -/
def Line.shift (nodes tests : Nat) : Line → Line
  | .theme => .theme
  | .direction => .direction
  | .testStart number label => .testStart (number + tests) label
  | .testEnd => .testEnd
  | .node inTest declared => .node inTest (declared.map (.shift nodes))
  | .edge inTest stated => .edge inTest (stated.map (.shift nodes))

theorem Line.node?_shift (nodes tests : Nat) (line : Line) :
    (line.shift nodes tests).node? = line.node?.map (Node.map (.shift nodes)) := by
  cases line <;> rfl

theorem Line.edge?_shift (nodes tests : Nat) (line : Line) :
    (line.shift nodes tests).edge? = line.edge?.map (Edge.map (.shift nodes)) := by
  cases line <;> rfl

/-! ## Two builders in one test -/

theorem Builder.running_of_isInTest {builder : Builder} (inTest : builder.isInTest = true) :
    builder.phase ≠ .finished := by
  intro done
  simp [isInTest, done] at inTest

theorem Builder.takeStep_isInTest (builder : Builder) (kind : StepKind) (action : Action) :
    (builder.takeStep kind action).isInTest = builder.isInTest := by
  rw [isInTest_eq, takeStep_region, ← isInTest_eq]

/-- Two builders in a test that know the same of it, up to the number of nodes declared before. -/
structure Shifted (nodes : Nat) (alone later : Builder) : Prop where
  aloneInTest : alone.isInTest = true
  laterInTest : later.isInTest = true
  trail : later.trail = alone.trail.map (.shift nodes)
  shared : later.shared = alone.shared.map (Prod.map id (.shift nodes))
  declared : later.nodes.length = alone.nodes.length + nodes

namespace Shifted

variable {nodes : Nat} {alone later : Builder}

section Knowledge

variable (shifted : Shifted nodes alone later) (kind : StepKind) (action : Action)
include shifted

theorem sharedNode? (key : StepKey) :
    later.sharedNode? key = (alone.sharedNode? key).map (.shift nodes) := by
  rw [Builder.sharedNode?, Builder.sharedNode?, shifted.shared]
  induction alone.shared with
  | nil => rfl
  | cons entry rest ih =>
    obtain ⟨known, id⟩ := entry
    simp only [List.map_cons, Prod.map_apply, id_eq, List.lookup_cons]
    split
    · rfl
    · exact ih

theorem nextId : later.nextId kind = (alone.nextId kind).shift nodes := by
  simp only [Builder.nextId, NodeId.shift, shifted.declared, NodeId.mk.injEq, true_and]
  omega

theorem nodeFor : later.nodeFor kind action = (alone.nodeFor kind action).shift nodes := by
  simp only [Builder.nodeFor, shifted.nextId, shifted.sharedNode?]
  split
  · rfl
  · cases alone.sharedNode? (stepKey kind action) <;> rfl

theorem newNode? :
    later.newNode? kind action = (alone.newNode? kind action).map (Node.map (.shift nodes)) := by
  simp only [Builder.newNode?, shifted.nextId, shifted.sharedNode?, Option.isNone_map]
  split <;> rfl

theorem sharedAfter :
    later.sharedAfter kind action =
      (alone.sharedAfter kind action).map (Prod.map id (.shift nodes)) := by
  simp only [Builder.sharedAfter, shifted.nextId, shifted.sharedNode?, shifted.shared, Option.isSome_map]
  split <;> rfl

/-- A step adds the same lines, shifted. -/
theorem stepLines (tests : Nat) :
    later.stepLines kind action = (alone.stepLines kind action).map (Line.shift nodes tests) := by
  simp only [Builder.stepLines, shifted.newNode?, shifted.nodeFor, shifted.trail,
    Trail.newEdge?_map (NodeId.shift_injective nodes), shifted.aloneInTest, shifted.laterInTest,
    Option.toList_map, List.map_append, List.map_map]
  rfl

/-- A step leaves both builders alike. -/
theorem takeStep : Shifted nodes (alone.takeStep kind action) (later.takeStep kind action) where
  aloneInTest := (alone.takeStep_isInTest kind action).trans shifted.aloneInTest
  laterInTest := (later.takeStep_isInTest kind action).trans shifted.laterInTest
  trail := by
    rw [Builder.takeStep_trail, Builder.takeStep_trail, shifted.trail, shifted.nodeFor,
      Trail.goTo_map (NodeId.shift_injective nodes)]
  shared := by rw [Builder.takeStep_shared, Builder.takeStep_shared, shifted.sharedAfter]
  declared := by
    rw [Builder.takeStep_nodes, Builder.takeStep_nodes, shifted.newNode?, Option.toList_map,
      List.length_append, List.length_append, List.length_map, shifted.declared]
    omega

end Knowledge

/-- A test that is opened in any diagram is opened as if in an empty one. -/
theorem openTest (manualPrefix : String) {builder : Builder} (reuse : builder.reuse = .withinTest)
    (action : Action) :
    Shifted builder.nodes.length ((Builder.fresh manualPrefix .withinTest).openTest action)
      (builder.openTest action) where
  aloneInTest := by simp only [Builder.isInTest, Builder.openTest_phase]
  laterInTest := by simp only [Builder.isInTest, Builder.openTest_phase]
  trail := by
    rw [Builder.openTest_trail, Builder.openTest_trail]
    rfl
  shared := by
    rw [Builder.openTest_shared, Builder.openTest_shared, Builder.sharedBeyond, reuse]
    rfl
  declared := by
    rw [Builder.openTest_nodes, Builder.openTest_nodes]
    exact (Nat.zero_add _).symm

/-- Steps add the same lines, shifted, and leave both builders alike. -/
theorem run (shifted : Shifted nodes alone later) (tests : Nat) {steps : List Operation}
    (takes : ∀ step ∈ steps, step.isStep) :
    Shifted nodes (alone.run steps) (later.run steps) ∧
      ∃ added, (alone.run steps).lines = alone.lines ++ added ∧
        (later.run steps).lines = later.lines ++ added.map (Line.shift nodes tests) := by
  induction steps generalizing alone later with
  | nil => exact ⟨shifted, [], (List.append_nil _).symm, (List.append_nil _).symm⟩
  | cons step rest ih =>
    obtain ⟨action, kind, rfl, isStep⟩ := Operation.exists_of_isStep (takes step List.mem_cons_self)
    -- neither builder refuses the step, since both are in a test
    have goes {builder : Builder} (inTest : builder.isInTest = true) :
        builder.run (.add action :: rest) = (builder.takeStep kind action).run rest := by
      have running := Builder.running_of_isInTest inTest
      change (builder.attempt (.add action)).run rest = _
      rw [Builder.attempt_of_perform (Builder.perform_step running isStep)]
    obtain ⟨alike, added, aloneLines, laterLines⟩ :=
      ih (shifted.takeStep kind action) fun step member => takes step (List.mem_cons_of_mem _ member)
    rw [goes shifted.aloneInTest, goes shifted.laterInTest]
    refine ⟨alike, alone.stepLines kind action ++ added, ?_, ?_⟩
    · rw [aloneLines, Builder.takeStep_lines, List.append_assoc]
    · rw [laterLines, Builder.takeStep_lines, shifted.stepLines kind action tests, List.map_append,
        List.append_assoc]

end Shifted

/-! ## Whole tests -/

/-- The operations of a test: it is opened, steps are taken, and it is closed. -/
def testOf (opening : Operation) (steps : List Operation) : List Operation :=
  opening :: (steps ++ [.endTest])

/-- Operations on a builder have added these lines, nodes and edges. -/
structure Adds (before after : Builder) (lines : List Line) (nodes : List Node) (edges : List Edge) :
    Prop where
  lines : after.lines = before.lines ++ lines
  nodes : after.nodes = before.nodes ++ nodes
  edges : after.edges = before.edges ++ edges

theorem Adds.of_lines {before after : Builder} {lines : List Line}
    (added : after.lines = before.lines ++ lines) :
    Adds before after lines (lines.filterMap Line.node?) (lines.filterMap Line.edge?) where
  lines := added
  nodes := by rw [Builder.nodes, added, List.filterMap_append, Builder.nodes]
  edges := by rw [Builder.edges, added, List.filterMap_append, Builder.edges]

section Block

variable {opening : Operation} {action : Action} {steps : List Operation}
  (opened : opening.opened? = some action) (takes : ∀ step ∈ steps, step.isStep)
include opened takes

theorem finish_not_mem_testOf : .finish ∉ testOf opening steps := by
  simp only [testOf, List.mem_cons, List.mem_append, List.not_mem_nil, reduceCtorEq, or_false, not_or]
  refine ⟨?_, fun member => ?_⟩
  · rintro rfl
    cases opened
  · cases takes _ member

/-- A test adds the same lines to an empty diagram and, shifted, to any other one. -/
theorem lines_testOf (manualPrefix : String) {builder : Builder} (running : builder.phase ≠ .finished)
    (reuse : builder.reuse = .withinTest) (samePrefix : builder.manualPrefix = manualPrefix) :
    ∃ added, ((Builder.fresh manualPrefix .withinTest).run (testOf opening steps)).lines =
        (Builder.fresh manualPrefix .withinTest).lines ++ added ∧
      (builder.run (testOf opening steps)).lines = builder.lines ++
        ((if builder.isInTest then [.testEnd] else []) ++
          added.map (Line.shift builder.nodes.length builder.tests)) := by
  have shape {builder : Builder} (running : builder.phase ≠ .finished) :
      builder.run (testOf opening steps) = ((builder.openTest action).run steps).run [.endTest] := by
    change (builder.attempt opening).run (steps ++ [.endTest]) = _
    rw [Builder.attempt_of_perform (Builder.perform_opened running opened), Builder.run_append]
  have closes {builder : Builder} (inTest : builder.isInTest = true) :
      (builder.run [.endTest]).lines = builder.lines ++ [.testEnd] := by
    have running := Builder.running_of_isInTest inTest
    change (builder.attempt .endTest).lines = _
    rw [Builder.attempt_of_perform (Builder.perform_endTest running), Builder.closeTest_lines, inTest]
    rfl
  obtain ⟨alike, added, aloneLines, laterLines⟩ :=
    (Shifted.openTest manualPrefix reuse action).run builder.tests takes
  have fresh : (Builder.fresh manualPrefix .withinTest).phase ≠ .finished := by simp [Builder.fresh]
  refine ⟨.testStart 1 (escapeLabel (testLabel manualPrefix action)) :: (added ++ [.testEnd]), ?_, ?_⟩
  · rw [shape fresh, closes alike.aloneInTest, aloneLines, Builder.openTest_lines]
    rfl
  · rw [shape running, closes alike.laterInTest, laterLines, Builder.openTest_lines,
      Builder.closeTest_lines, samePrefix]
    simp [Line.shift, Nat.add_comm]

end Block

/-- With nodes shared within tests, a test adds to the diagram of any run what it adds to an empty one, with
the numbers of its nodes and its own shifted behind those of the run; an open test is closed before. -/
theorem test_adds_shifted {settings : Settings} {given : Option String} {builder : Builder}
    (started : Builder.start settings given = .ok builder) (reuse : builder.reuse = .withinTest)
    {past steps : List Operation} {opening : Operation} {action : Action} (unfinished : .finish ∉ past)
    (opened : opening.opened? = some action) (takes : ∀ step ∈ steps, step.isStep) :
    (testOf opening steps).foldlM Builder.perform builder = .ok (builder.run (testOf opening steps)) ∧
      (testOf opening steps).foldlM Builder.perform (builder.run past) =
        .ok ((builder.run past).run (testOf opening steps)) ∧
      ∃ lines nodes edges,
        Adds builder (builder.run (testOf opening steps)) lines nodes edges ∧
          Adds (builder.run past) ((builder.run past).run (testOf opening steps))
            ((if (builder.run past).isInTest then [.testEnd] else []) ++
              lines.map (Line.shift (builder.run past).nodes.length (builder.run past).tests))
            (nodes.map (Node.map (.shift (builder.run past).nodes.length)))
            (edges.map (Edge.map (.shift (builder.run past).nodes.length))) := by
  have running := Builder.start_running started
  obtain ⟨history, -⟩ := History.of_run running past unfinished
  have goesOn := history.running running
  have allowed := finish_not_mem_testOf opened takes
  refine ⟨(History.of_run running _ allowed).2, (History.of_run goesOn _ allowed).2, ?_⟩
  have fresh := Builder.start_eq_fresh started
  rw [reuse] at fresh
  have samePrefix : builder.manualPrefix = settings.manualPrefix := congrArg Builder.manualPrefix fresh
  obtain ⟨lines, alone, later⟩ := lines_testOf opened takes settings.manualPrefix goesOn
    (history.reuse.trans reuse) (history.manualPrefix.trans samePrefix)
  rw [← fresh] at alone
  refine ⟨lines, lines.filterMap Line.node?, lines.filterMap Line.edge?, .of_lines alone, ?_⟩
  have added := Adds.of_lines later
  have noNodes := List.filterMap_eq_nil_iff.mpr fun _ member => ((builder.run past).closing_plain member).1
  have noEdges := List.filterMap_eq_nil_iff.mpr fun _ member => ((builder.run past).closing_plain member).2
  rw [List.filterMap_append, List.filterMap_append, noNodes, noEdges, List.nil_append, List.nil_append,
    List.filterMap_map, List.filterMap_map] at added
  simpa only [List.map_filterMap, Function.comp_def, Line.node?_shift, Line.edge?_shift] using added

/-- In the sample the test behind an open one begins with the end of that one, and with node three. -/
theorem sample_adds_shifted :
    Builder.start {} none = .ok sampleBuilder ∧ sampleBuilder.reuse = .withinTest ∧
      .finish ∉ sampleRun.take 3 ∧ (Operation.add sampleTest).opened? = some sampleTest ∧
      (∀ step ∈ [Operation.add sampleClick, .add sampleVisit], step.isStep) ∧
      ∃ lines nodes edges,
        Adds sampleBuilder
            (sampleBuilder.run (testOf (.add sampleTest) [.add sampleClick, .add sampleVisit]))
            lines nodes edges ∧
          Adds (sampleBuilder.run (sampleRun.take 3))
            ((sampleBuilder.run (sampleRun.take 3)).run
              (testOf (.add sampleTest) [.add sampleClick, .add sampleVisit]))
            (.testEnd :: lines.map (Line.shift 2 1)) (nodes.map (Node.map (.shift 2)))
            (edges.map (Edge.map (.shift 2))) := by
  have unfinished : .finish ∉ sampleRun.take 3 := by decide
  have opened : (Operation.add sampleTest).opened? = some sampleTest := rfl
  have takes : ∀ step ∈ [Operation.add sampleClick, .add sampleVisit], step.isStep := by decide
  obtain ⟨-, -, added⟩ := test_adds_shifted sample_started rfl unfinished opened takes
  exact ⟨sample_started, rfl, unfinished, opened, takes, added⟩

end TestFlow.Diagram

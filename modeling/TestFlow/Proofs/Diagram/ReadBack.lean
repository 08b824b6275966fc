import TestFlow.Proofs.Diagram.Outline
import TestFlow.Proofs.Diagram.Run

/-! # Diagrams can be read back

Whatever the texts of the actions, the text of a finished run holds the two headers and lines of the four
shapes, and reading it gives the tests, nodes and edges of the run, each in its region. The reader goes
along with the run: after each operation it stands in the region the builder stands in, and knows what
the builder has declared.
-/

namespace TestFlow.Diagram

/-- Numbers and labels of the tests that actions open, in order. -/
def numberedTests (manualPrefix : String) (actions : List Action) : List (Nat × String) :=
  actions.mapIdx fun index action => (index + 1, escapeLabel (testLabel manualPrefix action))

/-- What the moments of a run add to a diagram. -/
def outlineOf (manualPrefix : String) (moments : List Moment) : Outline where
  tests := numberedTests manualPrefix (moments.filterMap (·.operation.opened?))
  nodes := moments.flatMap fun moment => moment.newNodes.map (moment.region, ·)
  edges := moments.flatMap fun moment => moment.newEdges.map (moment.region, ·)

theorem outlineOf_tests (manualPrefix : String) (builder : Builder) (operations : List Operation) :
    (outlineOf manualPrefix (builder.moments operations)).tests =
      numberedTests manualPrefix (operations.filterMap Operation.opened?) := by
  have opening : (builder.moments operations).filterMap (·.operation.opened?) =
      operations.filterMap Operation.opened? := by
    conv_rhs => rw [← builder.moments_operations operations, List.filterMap_map]
    rfl
  simp only [outlineOf, opening]

theorem outlineOf_nodes (manualPrefix : String) (moments : List Moment) :
    (outlineOf manualPrefix moments).nodes.map (·.2) = moments.flatMap Moment.newNodes := by
  simp [outlineOf, List.map_flatMap, Function.comp_def]

theorem outlineOf_edges (manualPrefix : String) (moments : List Moment) :
    (outlineOf manualPrefix moments).edges.map (·.2) = moments.flatMap Moment.newEdges := by
  simp [outlineOf, List.map_flatMap, Function.comp_def]

/-- A builder whose lines are two headers and a body that reads as what the moments added. -/
structure Readable (manualPrefix : String) (moments : List Moment) (builder : Builder) (body : List Line) :
    Prop where
  lines : builder.lines = .theme :: .direction :: body
  legible : ∀ line ∈ body, line.Legible
  read : body.foldlM Outline.readLine? (.topLevel, {}) =
    some (builder.region, outlineOf manualPrefix moments)

theorem legible_node (inTest : Bool) (id : NodeId) (key : StepKey) :
    (Line.node inTest ⟨id, stepLabel key⟩).Legible :=
  ⟨rfl, fun _ member => mem_escapeLabel member⟩

theorem legible_testStart (number : Nat) (text : String) :
    (Line.testStart number (escapeLabel text)).Legible :=
  ⟨rfl, fun _ member => mem_escapeLabel member⟩

theorem legible_testEnd : Line.testEnd.Legible :=
  ⟨rfl, by simp [Line.label]⟩

theorem legible_edge (inTest : Bool) (edge : Edge) : (Line.edge inTest edge).Legible :=
  ⟨rfl, by simp [Line.label]⟩

theorem legible_closing {inTest : Bool} {line : Line}
    (member : line ∈ if inTest then [Line.testEnd] else []) : line.Legible := by
  cases inTest with
  | true => exact List.mem_singleton.mp member ▸ legible_testEnd
  | false => cases member

theorem legible_stepLines {builder : Builder} {kind : StepKind} {action : Action} {line : Line}
    (member : line ∈ builder.stepLines kind action) : line.Legible := by
  rcases List.mem_append.mp member with declaring | linking
  · obtain ⟨node, new, rfl⟩ := List.mem_map.mp declaring
    rcases builder.nodeFor_cases kind action with ⟨-, fresh⟩ | ⟨-, -, none⟩
    · simp only [fresh, Option.toList_some, List.mem_singleton] at new
      exact new ▸ legible_node _ _ _
    · simp [none] at new
  · obtain ⟨edge, -, rfl⟩ := List.mem_map.mp linking
    exact legible_edge _ _

namespace Readable

variable {manualPrefix : String} {moments : List Moment} {builder : Builder} {body : List Line}

/-- Lines that are read as what a moment adds keep a builder readable. -/
theorem append (readable : Readable manualPrefix moments builder body) {moment : Moment} {added : List Line}
    (written : moment.after.lines = builder.lines ++ added) (legible : ∀ line ∈ added, line.Legible)
    (read : added.foldlM Outline.readLine? (builder.region, outlineOf manualPrefix moments) =
      some (moment.after.region, outlineOf manualPrefix (moments ++ [moment]))) :
    Readable manualPrefix (moments ++ [moment]) moment.after (body ++ added) := by
  refine ⟨?_, ?_, ?_⟩
  · rw [written, readable.lines]
    rfl
  · intro line member
    exact (List.mem_append.mp member).elim (readable.legible line) (legible line)
  · rw [List.foldlM_append, readable.read]
    exact read

theorem opened (readable : Readable manualPrefix moments builder body) {operation : Operation}
    {action : Action} (opened : operation.opened? = some action)
    (prefixed : builder.manualPrefix = manualPrefix)
    (counted : (moments.filterMap (·.operation.opened?)).length = builder.tests) :
    ∃ added, Readable manualPrefix (moments ++ [⟨builder, operation, builder.openTest action⟩])
      (builder.openTest action) (body ++ added) := by
  refine ⟨(if builder.isInTest then [.testEnd] else []) ++
    [.testStart (builder.tests + 1) (escapeLabel (testLabel builder.manualPrefix action))],
    readable.append ?_ ?_ ?_⟩
  · rw [Builder.openTest_lines, Builder.closeTest_lines, List.append_assoc]
  · intro line member
    rcases List.mem_append.mp member with closing | opening
    · exact legible_closing closing
    · rw [List.mem_singleton.mp opening]
      exact legible_testStart _ _
  · rw [List.foldlM_append, builder.isInTest_eq, Outline.foldlM_closing]
    simp [Outline.readLine?, Builder.openTest_region, outlineOf, numberedTests, opened,
      Moment.newNodes_opened, Moment.newEdges_opened, counted, prefixed]

theorem closed (readable : Readable manualPrefix moments builder body) :
    ∃ added, Readable manualPrefix (moments ++ [⟨builder, .endTest, builder.closeTest⟩]) builder.closeTest
      (body ++ added) := by
  refine ⟨if builder.isInTest then [.testEnd] else [],
    readable.append builder.closeTest_lines (fun _ => legible_closing) ?_⟩
  rw [builder.isInTest_eq, Outline.foldlM_closing]
  simp [List.filterMap_cons, Builder.closeTest_region, outlineOf, Moment.newNodes_closed,
    Moment.newEdges_closed]

theorem stepped (readable : Readable manualPrefix moments builder body) {kind : StepKind} {action : Action}
    (isStep : action.kind = .step kind) :
    ∃ added, Readable manualPrefix (moments ++ [⟨builder, .add action, builder.takeStep kind action⟩])
      (builder.takeStep kind action) (body ++ added) := by
  refine ⟨builder.stepLines kind action,
    readable.append (builder.takeStep_lines kind action) (fun _ => legible_stepLines) ?_⟩
  rw [Builder.stepLines, List.foldlM_append, builder.isInTest_eq, Outline.foldlM_nodes]
  simp [Outline.foldlM_edges, outlineOf, Moment.region, Builder.takeStep_region,
    Moment.newNodes_stepped, Moment.newEdges_stepped, Operation.opened?_of_kind isStep]

end Readable

namespace History

variable {manualPrefix : String} {reuse : Reuse} {moments : List Moment} {builder : Builder}

/-- After each operation the reader stands where the builder stands. -/
theorem readable (history : History (.fresh manualPrefix reuse) moments builder) :
    ∃ body, Readable manualPrefix moments builder body := by
  induction history with
  | start => exact ⟨[], rfl, fun _ member => (List.not_mem_nil member).elim, rfl⟩
  | next past move ih =>
    obtain ⟨body, readable⟩ := ih
    cases move with
    | opened opened =>
      obtain ⟨added, next⟩ := readable.opened opened past.manualPrefix past.opened_length
      exact ⟨body ++ added, next⟩
    | closed =>
      obtain ⟨added, next⟩ := readable.closed
      exact ⟨body ++ added, next⟩
    | stepped isStep =>
      obtain ⟨added, next⟩ := readable.stepped isStep
      exact ⟨body ++ added, next⟩

/-- The body of a finished diagram is read as what the moments added. -/
theorem finished (history : History (.fresh manualPrefix reuse) moments builder) :
    ∃ body : List Line, builder.finish.lines = .theme :: .direction :: body ∧
      (∀ line ∈ body, line.Legible) ∧ Outline.ofLines? body = some (outlineOf manualPrefix moments) := by
  obtain ⟨body, readable⟩ := history.readable
  refine ⟨body ++ if builder.isInTest then [.testEnd] else [], ?_, ?_, ?_⟩
  · have closing : builder.finish.lines = builder.closeTest.lines := rfl
    rw [closing, builder.closeTest_lines, readable.lines]
    rfl
  · intro line member
    exact (List.mem_append.mp member).elim (readable.legible line) legible_closing
  · rw [Outline.ofLines?, List.foldlM_append, readable.read, builder.isInTest_eq]
    simp [Outline.foldlM_closing]

theorem ofText?_finish (history : History (.fresh manualPrefix reuse) moments builder) :
    Outline.ofText? builder.finish.text = some (outlineOf manualPrefix moments) := by
  obtain ⟨body, lines, legible, read⟩ := history.finished
  rw [Builder.text, lines, Outline.ofText?_textOf legible, read]

end History

/-- The lines of a shape among the texts of legible lines are as many as among the lines. -/
theorem countP_fits {body : List Line} (legible : ∀ line ∈ body, line.Legible) (shape : Shape) :
    (body.map Line.text).countP (shape.Fits ·) = body.countP (·.shape? = some shape) := by
  rw [List.countP_map]
  refine List.countP_congr fun line member => ?_
  simpa using (legible line member).fits_iff

theorem nodes_length_eq (body : List Line) :
    (body.filterMap Line.node?).length = body.countP (·.shape? = some .node) := by
  rw [List.length_filterMap_eq_countP]
  exact List.countP_congr fun line _ => by cases line <;> simp [Line.node?, Line.shape?]

theorem edges_length_eq (body : List Line) :
    (body.filterMap Line.edge?).length = body.countP (·.shape? = some .edge) := by
  rw [List.length_filterMap_eq_countP]
  exact List.countP_congr fun line _ => by cases line <;> simp [Line.edge?, Line.shape?]

theorem tests_length_eq (body : List Line) :
    body.countP Line.isTestStart = body.countP (·.shape? = some .opening) :=
  List.countP_congr fun line _ => by cases line <;> simp [Line.isTestStart, Line.shape?]

theorem finish_nodes (builder : Builder) : builder.finish.nodes = builder.nodes :=
  builder.closeTest_nodes

theorem finish_edges (builder : Builder) : builder.finish.edges = builder.edges :=
  builder.closeTest_edges

/-- Whatever texts the actions hold, the text of a finished run consists of the two headers and of lines
that have exactly one of the four shapes each, and a line feed ends the last one. Reading it gives the
tests in the order they were opened, and the nodes and edges of the diagram in order, each in the region
where it was drawn; there are as many of them as lines of their shape. -/
theorem outline_of_finished_text {settings : Settings} {given : Option String} {builder : Builder}
    {operations : List Operation} (started : Builder.start settings given = .ok builder)
    (unfinished : .finish ∉ operations) :
    operations.foldlM Builder.perform builder = .ok (builder.run operations) ∧
      ∃ body outline,
        textLines (builder.run operations).finish.text = [theme, "flowchart TD"] ++ body ++ [""] ∧
        (∀ text ∈ body, ∃! shape : Shape, shape.Fits text) ∧
        Outline.ofText? (builder.run operations).finish.text = some outline ∧
        outline.tests = numberedTests settings.manualPrefix (operations.filterMap Operation.opened?) ∧
        outline.nodes = ((builder.moments operations).flatMap fun moment =>
          moment.newNodes.map (moment.region, ·)) ∧
        outline.edges = ((builder.moments operations).flatMap fun moment =>
          moment.newEdges.map (moment.region, ·)) ∧
        outline.nodes.map (·.2) = (builder.run operations).finish.nodes ∧
        outline.edges.map (·.2) = (builder.run operations).finish.edges ∧
        body.countP (Shape.node.Fits ·) = (builder.run operations).finish.nodes.length ∧
        body.countP (Shape.edge.Fits ·) = (builder.run operations).finish.edges.length ∧
        body.countP (Shape.opening.Fits ·) = (builder.run operations).finish.tests := by
  obtain ⟨history, performed⟩ := History.of_run_started started unfinished
  obtain ⟨body, lines, legible, -⟩ := history.finished
  refine ⟨performed, body.map Line.text, outlineOf settings.manualPrefix (builder.moments operations),
    ?_, ?_, ?_, ?_, rfl, rfl, ?_, ?_, ?_, ?_, ?_⟩
  · rw [Builder.text, lines, textLines_diagram legible]
  · intro text member
    obtain ⟨line, among, rfl⟩ := List.mem_map.mp member
    exact (legible line among).existsUnique_fits
  · exact history.ofText?_finish
  · exact outlineOf_tests _ _ _
  · rw [outlineOf_nodes, finish_nodes]
    exact history.nodes_eq.symm
  · rw [outlineOf_edges, finish_edges]
    exact history.edges_eq.symm
  · rw [countP_fits legible, Builder.nodes, lines]
    exact (nodes_length_eq body).symm
  · rw [countP_fits legible, Builder.edges, lines]
    exact (edges_length_eq body).symm
  · rw [countP_fits legible, Builder.tests, lines]
    exact (tests_length_eq body).symm

/-- The address that looks like lines of a diagram is read back as a label, in each of its regions. -/
theorem outline_of_sample :
    Builder.start {} none = .ok sampleBuilder ∧ .finish ∉ sampleRun ∧
      ∃ outline, Outline.ofText? (sampleBuilder.run sampleRun).finish.text = some outline ∧
        outline.tests = [(1, "Manual test - order")] ∧
        outline.nodes = [(.topLevel, ⟨⟨.navigate, 1⟩, "fa:fa-globe Navigate to /a'b end --> C1"⟩),
          (.test 1, ⟨⟨.navigate, 2⟩, "fa:fa-globe Navigate to /a'b end --> C1"⟩),
          (.test 1, ⟨⟨.click, 3⟩, "fa:fa-mouse-pointer Click #order"⟩),
          (.topLevel, ⟨⟨.navigate, 4⟩, "fa:fa-globe Navigate to /a'b end --> C1"⟩)] := by
  obtain ⟨-, body, outline, -, -, read, tests, nodes, -⟩ :=
    outline_of_finished_text sample_started sample_unfinished
  refine ⟨sample_started, sample_unfinished, outline, read, tests.trans rfl, nodes.trans ?_⟩
  decide

end TestFlow.Diagram

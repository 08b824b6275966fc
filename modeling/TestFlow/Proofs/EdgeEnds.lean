import TestFlow.Proofs.Diagram.Chain
import TestFlow.Proofs.Placement

/-! # Both ends of an edge are known

A reader that comes to an edge has met both of its nodes before, each declared in one line of the whole
diagram. When sharing ends with the test, both stand in the region of the edge, and so no edge is drawn
twice: not even in two regions, since a node has only one.
-/

namespace TestFlow.Diagram

/-- The lines of a text that have one of the four shapes. -/
def drawnLines (text : String) : List Line :=
  (textLines text).filterMap Line.ofText?

/-- Whether a node is among those met so far, each with its region; in the given region, unless nodes are
shared across the run. -/
def Met (reuse : Reuse) (met : List (Region × Node)) (region : Region) (id : NodeId) : Prop :=
  ∃ home node, (home, node) ∈ met ∧ node.id = id ∧ (reuse = .withinTest → home = region)

/-- A text whose edges join known nodes: a reader of the lines before an edge has met both of its ends. -/
structure Moored (reuse : Reuse) (text : String) : Prop where
  lines : textLines text = [theme, "flowchart TD"] ++ (drawnLines text).map Line.text ++ [""]
  nodes : (((drawnLines text).filterMap Line.node?).map Node.id).Nodup
  ends : ∀ before inTest edge after, drawnLines text = before ++ .edge inTest edge :: after →
    ∃ region outline, before.foldlM Outline.readLine? (.topLevel, {}) = some (region, outline) ∧
      Met reuse outline.nodes region edge.source ∧ Met reuse outline.nodes region edge.target
  edges : reuse = .withinTest → ((drawnLines text).filterMap Line.edge?).Nodup

theorem drawnLines_textOf {body : List Line} (legible : ∀ line ∈ body, line.Legible) :
    drawnLines (textOf (.theme :: .direction :: body)) = body := by
  have read : (body.map Line.text).filterMap Line.ofText? = body := by
    rw [List.filterMap_map]
    have each : ∀ line ∈ body, (Line.ofText? ∘ Line.text) line = some line :=
      fun line member => (legible line member).ofText?_text
    rw [List.filterMap_congr each, List.filterMap_some]
  have headers : [theme, "flowchart TD"].filterMap Line.ofText? = [] := by decide +kernel
  have ending : [""].filterMap Line.ofText? = [] := by decide +kernel
  rw [drawnLines, textLines_diagram legible, List.filterMap_append, List.filterMap_append, headers, read,
    ending, List.nil_append, List.append_nil]

/-! ## Ends of a new edge -/

/-- A new edge leads from where the trail stands to the node gone on to, and is not drawn yet. -/
theorem Trail.of_newEdge? {trail : Trail} {id : NodeId} {edge : Edge}
    (new : trail.newEdge? id = some edge) :
    trail.last = some edge.source ∧ edge.target = id ∧ edge ∉ trail.edges := by
  unfold newEdge? at new
  split at new
  · cases new
  · rename_i last stands
    simp only [Option.ite_none_left_eq_some, Option.some.injEq, Bool.or_eq_true, decide_eq_true_eq,
      not_or] at new
    obtain ⟨⟨-, undrawn⟩, rfl⟩ := new
    exact ⟨stands, rfl, undrawn⟩

/-- An edge in lines stands in front of added ones that draw none. -/
theorem edge_before_plain {base added before after : List Line} {inTest : Bool} {edge : Edge}
    (plain : ∀ line ∈ added, line.edge? = none)
    (split : base ++ added = before ++ .edge inTest edge :: after) :
    ∃ rest, base = before ++ .edge inTest edge :: rest := by
  rcases List.append_eq_append_iff.mp split with ⟨middle, -, ends⟩ | ⟨middle, begins, ends⟩
  · have here : Line.edge inTest edge ∈ added := ends ▸ List.mem_append_right _ List.mem_cons_self
    cases plain _ here
  · cases middle with
    | nil =>
      have here : Line.edge inTest edge ∈ added := by
        rw [List.nil_append] at ends
        exact ends ▸ List.mem_cons_self
      cases plain _ here
    | cons head rest =>
      obtain ⟨rfl, -⟩ := List.cons.inj ends
      exact ⟨rest, begins⟩

/-- Only steps draw edges. -/
theorem Move.lines_plain {builder next : Builder} {operation : Operation}
    (move : Move builder operation next) (still : operation.isStep = false) :
    ∃ added, next.lines = builder.lines ++ added ∧ ∀ line ∈ added, line.edge? = none := by
  cases move with
  | opened _ =>
    refine ⟨_, (builder.openTest_lines _).trans (by rw [builder.closeTest_lines, List.append_assoc]), ?_⟩
    intro line member
    rcases List.mem_append.mp member with closes | opens
    · exact (builder.closing_plain closes).2
    · rw [List.mem_singleton.mp opens]
      rfl
  | closed => exact ⟨_, builder.closeTest_lines, fun line member => (builder.closing_plain member).2⟩
  | stepped isStep =>
    rw [Operation.isStep_of_kind isStep] at still
    cases still

/-! ## Nodes in their regions -/

/-- The nodes that moments declare, each in its region. -/
def homes (moments : List Moment) : List (Region × Node) :=
  moments.flatMap fun moment => moment.newNodes.map (moment.region, ·)

theorem homes_append_singleton (moments : List Moment) (moment : Moment) :
    homes (moments ++ [moment]) = homes moments ++ moment.newNodes.map (moment.region, ·) := by
  simp [homes]

theorem Met.mono {reuse : Reuse} {met more : List (Region × Node)} {region : Region} {id : NodeId}
    (known : Met reuse met region id) : Met reuse (met ++ more) region id := by
  obtain ⟨home, node, member, named, here⟩ := known
  exact ⟨home, node, List.mem_append_left _ member, named, here⟩

theorem Met.elsewhere {reuse : Reuse} {met : List (Region × Node)} {region : Region} {id : NodeId}
    (known : Met reuse met region id) (across : reuse = .acrossRun) (other : Region) :
    Met reuse met other id := by
  obtain ⟨home, node, member, named, -⟩ := known
  refine ⟨home, node, member, named, fun within => ?_⟩
  rw [across] at within
  cases within

/-- How the nodes declared so far tell of the steps taken: each region has met the nodes of its steps, and
the current one those that are shared. -/
structure Anchored (moments : List Moment) (builder : Builder) : Prop where
  stops : ∀ region, ∀ id ∈ stopsIn region moments, Met builder.reuse (homes moments) region id
  shared : ∀ key id, builder.sharedNode? key = some id →
    Met builder.reuse (homes moments) builder.region id

namespace Anchored

variable {moments : List Moment} {builder next : Builder} {operation : Operation} {kind : StepKind}
  {action : Action}

/-- What is still shared beyond a border has been met everywhere. -/
theorem met_beyond (anchored : Anchored moments builder) {key : StepKey} {id : NodeId}
    (found : builder.sharedBeyond.lookup key = some id) (region : Region) :
    Met builder.reuse (homes moments) region id := by
  cases reuse : builder.reuse with
  | withinTest =>
    simp only [Builder.sharedBeyond, reuse] at found
    cases found
  | acrossRun =>
    simp only [Builder.sharedBeyond, reuse] at found
    have known := anchored.shared key id found
    rw [reuse] at known
    exact known.elsewhere rfl region

/-- An operation that takes no step leaves the nodes and the paths as they are. -/
theorem pass (anchored : Anchored moments builder)
    (unlinked : Moment.linked? ⟨builder, operation, next⟩ = none)
    (silent : Moment.newNodes ⟨builder, operation, next⟩ = []) (reuse : next.reuse = builder.reuse)
    (shared : ∀ key id, next.sharedNode? key = some id →
      Met builder.reuse (homes moments) next.region id) :
    Anchored (moments ++ [⟨builder, operation, next⟩]) next := by
  have kept : homes (moments ++ [⟨builder, operation, next⟩]) = homes moments := by
    rw [homes_append_singleton, silent, List.map_nil, List.append_nil]
  constructor
  · intro region id stop
    rw [stopsIn_append_singleton, unlinked, Option.toList_none, ite_self, List.append_nil] at stop
    rw [kept, reuse]
    exact anchored.stops region id stop
  · intro key id found
    rw [kept, reuse]
    exact shared key id found

theorem opened (anchored : Anchored moments builder) (opened : operation.opened? = some action) :
    Anchored (moments ++ [⟨builder, operation, builder.openTest action⟩]) (builder.openTest action) := by
  apply anchored.pass (Moment.linked?_opened opened) Moment.newNodes_opened (builder.openTest_reuse action)
  intro key id found
  rw [Builder.sharedNode?, Builder.openTest_shared] at found
  exact anchored.met_beyond found _

theorem closed (anchored : Anchored moments builder) :
    Anchored (moments ++ [⟨builder, .endTest, builder.closeTest⟩]) builder.closeTest := by
  apply anchored.pass Moment.linked?_closed Moment.newNodes_closed builder.closeTest_reuse
  intro key id found
  rw [Builder.sharedNode?, Builder.closeTest_shared] at found
  cases inTest : builder.isInTest with
  | true =>
    rw [inTest, if_pos rfl] at found
    exact anchored.met_beyond found _
  | false =>
    rw [inTest] at found
    have stays : builder.closeTest.region = builder.region := by
      rw [Builder.closeTest_eq, inTest]
      rfl
    rw [stays]
    exact anchored.shared key id found

/-- The node of a step is met once the step is taken. -/
theorem met_nodeFor (anchored : Anchored moments builder) (kind : StepKind) (action : Action) :
    Met builder.reuse (homes moments ++ (builder.newNode? kind action).toList.map (builder.region, ·))
      builder.region (builder.nodeFor kind action) := by
  rcases builder.nodeFor_cases kind action with ⟨fresh, new⟩ | ⟨-, found, -⟩
  · refine ⟨builder.region, ⟨builder.nextId kind, stepLabel (stepKey kind action)⟩, ?_, fresh.symm,
      fun _ => rfl⟩
    simp [new]
  · exact (anchored.shared _ _ found).mono

theorem stepped (anchored : Anchored moments builder) (isStep : action.kind = .step kind) :
    Anchored (moments ++ [⟨builder, .add action, builder.takeStep kind action⟩])
      (builder.takeStep kind action) := by
  have here : Moment.region ⟨builder, .add action, builder.takeStep kind action⟩ = builder.region :=
    builder.takeStep_region kind action
  have grown : homes (moments ++ [⟨builder, .add action, builder.takeStep kind action⟩]) =
      homes moments ++ (builder.newNode? kind action).toList.map (builder.region, ·) := by
    rw [homes_append_singleton, Moment.newNodes_stepped, here]
  constructor
  · intro region id stop
    rw [stopsIn_append_singleton, here, Moment.linked?_stepped isStep, List.mem_append] at stop
    rw [grown, Builder.takeStep_reuse]
    rcases stop with past | last
    · exact (anchored.stops region id past).mono
    · split at last
      · rename_i same
        obtain rfl := List.mem_singleton.mp last
        exact same ▸ anchored.met_nodeFor kind action
      · cases last
  · intro key id found
    rw [grown, Builder.takeStep_reuse, Builder.takeStep_region]
    rw [Builder.takeStep_sharedNode?] at found
    split at found
    · obtain rfl := Option.some.inj found
      exact anchored.met_nodeFor kind action
    · exact (anchored.shared key id found).mono

end Anchored

namespace History

variable {manualPrefix : String} {reuse : Reuse} {moments : List Moment} {builder : Builder}

theorem anchored (history : History (.fresh manualPrefix reuse) moments builder) :
    Anchored moments builder := by
  induction history with
  | start =>
    constructor
    · intro region id stop
      cases stop
    · intro key id found
      cases found
  | next _ move ih =>
    cases move with
    | opened opened => exact ih.opened opened
    | closed => exact ih.closed
    | stepped isStep => exact ih.stepped isStep

/-- The edge that a step adds starts where a step of its region has been. -/
theorem source_mem_stops (history : History (.fresh manualPrefix reuse) moments builder) {id : NodeId}
    {edge : Edge} (new : builder.trail.newEdge? id = some edge) :
    edge.source ∈ stopsIn builder.region moments := by
  obtain ⟨stands, -, -⟩ := Trail.of_newEdge? new
  rw [history.chained.current, Trail.along_eq] at stands
  exact List.mem_of_getLast? stands

/-- When a step adds an edge, its declaration has been read and both ends are met: the one that the trail
stands on, and the one that the step is linked to. -/
theorem ends_met_step (history : History (.fresh manualPrefix reuse) moments builder) {body : List Line}
    (readable : Readable manualPrefix moments builder body) {kind : StepKind} {action : Action} {edge : Edge}
    (new : builder.trail.newEdge? (builder.nodeFor kind action) = some edge) :
    ∃ region outline,
      (body ++ (builder.newNode? kind action).toList.map (Line.node builder.isInTest)).foldlM
          Outline.readLine? (.topLevel, {}) = some (region, outline) ∧
        Met reuse outline.nodes region edge.source ∧ Met reuse outline.nodes region edge.target := by
  have source := history.anchored.stops _ _ (history.source_mem_stops new)
  have target := history.anchored.met_nodeFor kind action
  rw [history.reuse] at source target
  rw [← (Trail.of_newEdge? new).2.1] at target
  refine ⟨builder.region, { outlineOf manualPrefix moments with
    nodes := homes moments ++ (builder.newNode? kind action).toList.map (builder.region, ·) },
    ?_, source.mono, target⟩
  rw [List.foldlM_append, readable.read, builder.isInTest_eq]
  exact Outline.foldlM_nodes ..

/-- Before each edge line both of its ends are met. -/
theorem ends_met (history : History (.fresh manualPrefix reuse) moments builder)
    {body before after : List Line} {inTest : Bool} {edge : Edge}
    (lines : builder.lines = .theme :: .direction :: body)
    (split : body = before ++ .edge inTest edge :: after) :
    ∃ region outline, before.foldlM Outline.readLine? (.topLevel, {}) = some (region, outline) ∧
      Met reuse outline.nodes region edge.source ∧ Met reuse outline.nodes region edge.target := by
  induction history generalizing body before after inTest edge with
  | start =>
    cases lines
    simp at split
  | @next moments builder _ operation past move ih =>
    obtain ⟨old, readable⟩ := past.readable
    have grown {added : List Line} (written : builder.lines ++ added = .theme :: .direction :: body) :
        body = old ++ added := by
      rw [readable.lines] at written
      simpa using written.symm
    -- the edge is an old one, except where it is the last line of a step: then the invariant speaks of it
    cases steps : operation.isStep with
    | false =>
      obtain ⟨added, written, plain⟩ := move.lines_plain steps
      have extended := grown (written.symm.trans lines)
      obtain ⟨rest, found⟩ := edge_before_plain plain (extended.symm.trans split)
      exact ih readable.lines found
    | true =>
      obtain ⟨action, kind, rfl, isStep⟩ := Operation.exists_of_isStep steps
      rw [move.eq_takeStep isStep, Builder.takeStep_lines] at lines
      have extended := grown lines
      rw [Builder.stepLines, ← List.append_assoc] at extended
      have declaring : ∀ line ∈ (builder.newNode? kind action).toList.map (Line.node builder.isInTest),
          line.edge? = none := by
        intro line member
        obtain ⟨node, -, rfl⟩ := List.mem_map.mp member
        rfl
      have both := extended.symm.trans split
      cases new : builder.trail.newEdge? (builder.nodeFor kind action) with
      | none =>
        rw [new, Option.toList_none, List.map_nil, List.append_nil] at both
        obtain ⟨rest, found⟩ := edge_before_plain declaring both
        exact ih readable.lines found
      | some added =>
        rw [new, Option.toList_some, List.map_singleton] at both
        rcases last_or_before both with ⟨same, rfl⟩ | ⟨rest, rfl, found⟩
        · obtain ⟨rfl, -⟩ := List.append_inj' both rfl
          obtain ⟨-, rfl⟩ := Line.edge.inj same
          exact past.ends_met_step readable new
        · obtain ⟨rest, found⟩ := edge_before_plain declaring found
          exact ih readable.lines found

/-- A node that is met in two regions is shared across the run. -/
theorem region_unique (history : History (.fresh manualPrefix .withinTest) moments builder)
    {first second : Region} {id : NodeId} (here : Met .withinTest (homes moments) first id)
    (there : Met .withinTest (homes moments) second id) : first = second := by
  obtain ⟨home, node, declared, rfl, atHome⟩ := here
  obtain ⟨other, twin, also, named, atOther⟩ := there
  have unique : ((homes moments).map (·.2.id)).Nodup := by
    have declared : (homes moments).map (·.2) = builder.nodes := by
      rw [history.nodes_eq]
      exact outlineOf_nodes manualPrefix moments
    have ids := history.ids_nodup
    rwa [← declared, List.map_map] at ids
  have same := List.inj_on_of_nodup_map unique also declared named
  rw [← atHome rfl, ← atOther rfl]
  exact (congrArg Prod.fst same).symm

/-- When sharing ends with the test no edge is drawn twice: in one region its trail prevents it, and in two
the ends would have to stand in both. -/
theorem edges_nodup (history : History (.fresh manualPrefix .withinTest) moments builder) :
    builder.edges.Nodup := by
  induction history with
  | start => exact List.nodup_nil
  | @next moments builder _ _ past move ih =>
    cases move with
    | opened _ => rwa [Builder.openTest_edges]
    | closed => rwa [Builder.closeTest_edges]
    | @stepped kind action _ =>
      rw [Builder.takeStep_edges, List.nodup_append]
      refine ⟨ih, by cases builder.trail.newEdge? _ <;> simp, ?_⟩
      rintro edge drawn other added rfl
      have new : builder.trail.newEdge? (builder.nodeFor kind action) = some edge :=
        Option.mem_toList.mp added
      obtain ⟨-, -, undrawn⟩ := Trail.of_newEdge? new
      obtain ⟨region, inRegion⟩ := past.exists_mem_edgesIn drawn
      have same : region = builder.region := by
        have there := past.anchored.stops _ _ (past.chained.mem_stopsIn inRegion).1
        have here := past.anchored.stops _ _ (past.source_mem_stops new)
        rw [past.reuse] at there here
        exact past.region_unique there here
      apply undrawn
      rw [past.chained.current, ← past.chained.drawn, ← same]
      exact inRegion

/-- The text of a run has its edges moored. -/
theorem moored (history : History (.fresh manualPrefix reuse) moments builder) :
    Moored reuse builder.text := by
  obtain ⟨body, readable⟩ := history.readable
  have drawn : drawnLines builder.text = body := by
    rw [Builder.text, readable.lines, drawnLines_textOf readable.legible]
  have nodes : body.filterMap Line.node? = builder.nodes := by
    rw [Builder.nodes, readable.lines]
    rfl
  have edges : body.filterMap Line.edge? = builder.edges := by
    rw [Builder.edges, readable.lines]
    rfl
  constructor
  · rw [drawn, Builder.text, readable.lines, textLines_diagram readable.legible]
  · rw [drawn, nodes]
    exact history.ids_nodup
  · intro before inTest edge after split
    rw [drawn] at split
    exact history.ends_met readable.lines split
  · rintro rfl
    rw [drawn, edges]
    exact history.edges_nodup

end History

end TestFlow.Diagram

namespace TestFlow

open Diagram

/-- In every diagram, of a tree as of any run of a builder, each edge comes after the only lines that
declare its ends. If sharing ends with the test both ends stand in the region of the edge, and no edge is
drawn twice. -/
theorem edges_join_met_nodes {settings : Settings} {given : Option String} {builder : Builder}
    (started : Builder.start settings given = .ok builder) :
    (∀ operations, Moored builder.reuse (builder.run operations).text) ∧
      ∀ language root, acceptTree language root = .ok root →
        ∃ graph, flowOfTree settings given language root = .ok graph ∧
          Moored builder.reuse graph.text := by
  have runs (operations : List Operation) : Moored builder.reuse (builder.run operations).text := by
    obtain ⟨taken, unfinished, same⟩ :=
      Builder.exists_unfinished_run (Builder.start_running started) operations
    obtain ⟨history, -⟩ := History.of_run_started started unfinished
    rw [Builder.text, same]
    exact history.moored
  refine ⟨runs, ?_⟩
  intro language root accepted
  obtain ⟨graph, drawn, text, -⟩ := flowOfTree_eq_run accepted started
  refine ⟨graph, drawn, ?_⟩
  have finished := runs (requests settings root ++ [.finish])
  rw [Builder.run_append] at finished
  rw [text]
  exact finished

/-- The two top-level steps of the tree are joined by an edge; so are the steps of the test in the run. -/
theorem edges_of_sample_tree :
    acceptTree "javascript" sampleTree = .ok sampleTree ∧ Builder.start {} none = .ok sampleBuilder ∧
      (∃ graph, flowOfTree {} none "javascript" sampleTree = .ok graph ∧ Moored .withinTest graph.text) ∧
      Moored .withinTest (sampleBuilder.run sampleRun).text ∧
      (sampleBuilder.run sampleRun).edges =
        [⟨⟨.navigate, 2⟩, ⟨.click, 3⟩⟩, ⟨⟨.click, 3⟩, ⟨.navigate, 2⟩⟩, ⟨⟨.navigate, 1⟩, ⟨.navigate, 4⟩⟩] := by
  have accepted : acceptTree "javascript" sampleTree = .ok sampleTree := rfl
  obtain ⟨runs, trees⟩ := edges_join_met_nodes sample_started
  exact ⟨accepted, sample_started, trees _ _ accepted, runs sampleRun, by decide⟩

end TestFlow

import TestFlow.Proofs.Diagram.Chain
import TestFlow.Proofs.Diagram.Coarsening

/-! # Names are unique

Nodes are numbered through the whole run, whatever their kinds and regions, and tests have a letter of their
own. So no two lines of a diagram give one name. What a builder keeps by name, to be shared, on its trails or
in its edges, is declared; a shared node has the label of its key, and no other key shares it.
-/

namespace TestFlow.Diagram

/-! ## Names as texts -/

theorem NodeId.text_injective : Function.Injective NodeId.text := by
  intro first second same
  have read (id : NodeId) : readId? id.text.toList = some (id, []) :=
    readId?_eq_some_iff.mpr ⟨(List.append_nil _).symm, rfl⟩
  have both := (read first).symm.trans (same ▸ read second)
  exact congrArg Prod.fst (Option.some.inj both)

theorem testId_injective : Function.Injective testId := by
  intro first second same
  have digits : toString first = toString second := (String.append_right_inj "T").mp same
  have read (number : Nat) : readNumber? (toString number).toList = some (number, []) :=
    readNumber?_eq_some_iff.mpr ⟨(List.append_nil _).symm, rfl⟩
  have both := (read first).symm.trans (digits ▸ read second)
  exact congrArg Prod.fst (Option.some.inj both)

/-- No node has the name of a test. -/
theorem text_ne_testId (id : NodeId) (number : Nat) : id.text ≠ testId number := by
  obtain ⟨kind, own⟩ := id
  intro same
  have heads := congrArg (·.toList.head?) same
  cases kind <;> simp [NodeId.text, testId, letter] at heads

/-- The number of the test that a line opens. -/
def Line.test? : Line → Option Nat
  | .testStart number _ => some number
  | _ => none

/-- The name that a line gives, to a node or to a test. -/
def Line.name? : Line → Option String
  | .testStart number _ => some (testId number)
  | .node _ declared => some declared.id.text
  | _ => none

/-- The name that a text gives as a line of a diagram. -/
def givenName? (text : String) : Option String :=
  (Line.ofText? text).bind Line.name?

theorem Line.name?_eq_some_iff {line : Line} {name : String} :
    line.name? = some name ↔
      (∃ node, line.node? = some node ∧ node.id.text = name) ∨
        ∃ number, line.test? = some number ∧ testId number = name := by
  cases line <;> simp [name?, node?, test?]

theorem mem_names_iff {lines : List Line} {name : String} :
    name ∈ lines.filterMap Line.name? ↔
      (∃ node ∈ lines.filterMap Line.node?, node.id.text = name) ∨
        ∃ number ∈ lines.filterMap Line.test?, testId number = name := by
  simp only [List.mem_filterMap, Line.name?_eq_some_iff]
  constructor
  · rintro ⟨line, member, ⟨node, declares, named⟩ | ⟨number, opens, named⟩⟩
    · exact .inl ⟨node, ⟨line, member, declares⟩, named⟩
    · exact .inr ⟨number, ⟨line, member, opens⟩, named⟩
  · rintro (⟨node, ⟨line, member, declares⟩, named⟩ | ⟨number, ⟨line, member, opens⟩, named⟩)
    · exact ⟨line, member, .inl ⟨node, declares, named⟩⟩
    · exact ⟨line, member, .inr ⟨number, opens, named⟩⟩

/-- Where no two nodes have one name and no two tests one number, no two lines give one name. -/
theorem names_nodup {lines : List Line} (nodes : ((lines.filterMap Line.node?).map Node.id).Nodup)
    (tests : (lines.filterMap Line.test?).Nodup) : (lines.filterMap Line.name?).Nodup := by
  rw [List.Nodup, List.pairwise_map, List.pairwise_filterMap] at nodes
  rw [List.Nodup, List.pairwise_filterMap] at tests
  rw [List.Nodup, List.pairwise_filterMap]
  refine (nodes.and tests).imp ?_
  rintro first second ⟨nodesApart, testsApart⟩ _ gives _ givesToo
  rcases Line.name?_eq_some_iff.mp gives with ⟨node, declares, rfl⟩ | ⟨number, opens, rfl⟩ <;>
    rcases Line.name?_eq_some_iff.mp givesToo with ⟨other, declaresToo, rfl⟩ | ⟨place, opensToo, rfl⟩
  · exact fun same => nodesApart node declares other declaresToo (NodeId.text_injective same)
  · exact text_ne_testId _ _
  · exact (text_ne_testId _ _).symm
  · exact fun same => testsApart number opens place opensToo (testId_injective same)

/-- In the text of a diagram the lines give their names, and the headers give none. -/
theorem givenNames_textOf {body : List Line} (legible : ∀ line ∈ body, line.Legible) :
    (textLines (textOf (.theme :: .direction :: body))).filterMap givenName? =
      (Line.theme :: .direction :: body).filterMap Line.name? := by
  have headers : [theme, "flowchart TD"].filterMap givenName? = [] := by
    change ([Line.theme, .direction].map Line.text).filterMap givenName? = []
    simp only [List.filterMap_eq_nil_iff, List.forall_mem_map]
    exact fun header member => by rw [givenName?, (header_unread member).2, Option.bind_none]
  have ending : [""].filterMap givenName? = [] := by decide +kernel
  have read : ∀ line ∈ body, (givenName? ∘ Line.text) line = line.name? := by
    intro line member
    rw [Function.comp_apply, givenName?, (legible line member).ofText?_text, Option.bind_some]
  rw [textLines_diagram legible, List.filterMap_append, List.filterMap_append, headers, ending,
    List.nil_append, List.append_nil, List.filterMap_map, List.filterMap_congr read]
  rfl

/-! ## What is kept by name -/

namespace History

variable {manualPrefix : String} {reuse : Reuse} {moments : List Moment} {builder : Builder}

/-- The number of a node is its place among all nodes. -/
theorem number_of_getElem? (history : History (.fresh manualPrefix reuse) moments builder) {index : Nat}
    {node : Node} (found : builder.nodes[index]? = some node) : node.id.number = index + 1 := by
  obtain ⟨bound, -⟩ := List.getElem?_eq_some_iff.mp found
  have numbered := congrArg (·[index]?) history.nodes_numbered
  simp only [List.getElem?_map, found, Option.map_some, List.getElem?_range' bound, Nat.one_mul,
    Option.some.injEq] at numbered
  rw [numbered, Nat.add_comm]

/-- Tests are opened under the numbers from one on. -/
theorem tests_numbered (history : History (.fresh manualPrefix reuse) moments builder) :
    builder.lines.filterMap Line.test? = List.range' 1 builder.tests := by
  induction history with
  | start => rfl
  | @next _ builder _ _ _ move ih =>
    have closing : (if builder.isInTest then [Line.testEnd] else []).filterMap Line.test? = [] := by
      split <;> rfl
    cases move with
    | opened _ =>
      rw [Builder.openTest_lines, Builder.closeTest_lines, Builder.openTest_tests, List.range'_1_concat,
        List.filterMap_append, List.filterMap_append, closing, ih, List.append_nil, Nat.add_comm 1]
      rfl
    | closed =>
      rw [Builder.closeTest_lines, Builder.closeTest_tests, List.filterMap_append, closing, ih,
        List.append_nil]
    | stepped _ =>
      rw [Builder.takeStep_lines, Builder.takeStep_tests, ← ih]
      simp [Builder.stepLines, List.filterMap_map, Function.comp_def, Line.test?]

/-- The table of shared nodes has one entry for each key. -/
theorem sharedNode?_of_mem (history : History (.fresh manualPrefix reuse) moments builder) {key : StepKey}
    {id : NodeId} (entry : (key, id) ∈ builder.shared) : builder.sharedNode? key = some id := by
  induction history with
  | start => cases entry
  | @next _ builder _ _ _ move ih =>
    have beyond (kept : (key, id) ∈ builder.sharedBeyond) : builder.sharedBeyond.lookup key = some id := by
      cases reuse : builder.reuse with
      | withinTest =>
        simp only [Builder.sharedBeyond, reuse] at kept
        cases kept
      | acrossRun =>
        simp only [Builder.sharedBeyond, reuse] at kept ⊢
        exact ih kept
    cases move with
    | opened _ =>
      rw [Builder.openTest_shared] at entry
      rw [Builder.sharedNode?, Builder.openTest_shared]
      exact beyond entry
    | closed =>
      rw [Builder.closeTest_shared] at entry
      rw [Builder.sharedNode?, Builder.closeTest_shared]
      split at entry
      · rename_i inTest
        rw [if_pos inTest]
        exact beyond entry
      · rename_i outside
        rw [if_neg outside]
        exact ih entry
    | @stepped kind action _ =>
      rw [Builder.takeStep_shared, Builder.sharedAfter] at entry
      rw [Builder.takeStep_sharedNode?]
      split at entry
      · have known := ih entry
        split
        · rename_i same
          simp [Builder.nodeFor, same.1, ← same.2, known]
        · exact known
      · rename_i fresh
        simp only [Bool.or_eq_true, not_or, Bool.not_eq_true, Option.isSome_eq_false_iff,
          Option.isNone_iff_eq_none] at fresh
        obtain ⟨own, unknown⟩ := fresh
        rcases List.mem_cons.mp entry with new | old
        · obtain ⟨rfl, rfl⟩ := Prod.mk.inj new
          rw [if_pos ⟨own, rfl⟩]
          simp [Builder.nodeFor, own, unknown]
        · have known := ih old
          rw [if_neg, known]
          rintro ⟨-, rfl⟩
          rw [unknown] at known
          cases known

/-- A node that a step of a region is linked to is declared. -/
theorem declared_of_stop (history : History (.fresh manualPrefix reuse) moments builder) {region : Region}
    {id : NodeId} (stop : id ∈ stopsIn region moments) : id ∈ builder.nodes.map Node.id := by
  obtain ⟨moment, among, linked⟩ := List.mem_filterMap.mp stop
  obtain ⟨action, kind, asked, isStep⟩ := Moment.exists_of_linked? linked
  obtain ⟨same, named, -, declared⟩ := history.linked_declared (List.mem_filter.mp among).1 asked isStep
  obtain rfl := Option.some.inj (linked.symm.trans named)
  exact List.mem_map_of_mem declared

/-- A trail stands on a declared node, and so do both ends of an edge. -/
theorem declared_of_along (history : History (.fresh manualPrefix reuse) moments builder) {region : Region}
    {trail : Trail} (walked : trail = .along (stopsIn region moments)) {id : NodeId}
    (stands : trail.last = some id) : id ∈ builder.nodes.map Node.id := by
  rw [walked, Trail.along_eq] at stands
  exact history.declared_of_stop (List.mem_of_getLast? stands)

theorem edge_declared (history : History (.fresh manualPrefix reuse) moments builder) {edge : Edge}
    (drawn : edge ∈ builder.edges) :
    edge.source ∈ builder.nodes.map Node.id ∧ edge.target ∈ builder.nodes.map Node.id := by
  obtain ⟨region, inRegion⟩ := history.exists_mem_edgesIn drawn
  obtain ⟨source, target⟩ := history.chained.mem_stopsIn inRegion
  exact ⟨history.declared_of_stop source, history.declared_of_stop target⟩

/-- Each declared node is of the kind and has the label of a step that is linked to it. -/
theorem node_of_step (history : History (.fresh manualPrefix reuse) moments builder) {node : Node}
    (declared : node ∈ builder.nodes) :
    ∃ moment ∈ moments, ∃ action, moment.operation = .add action ∧ action.kind = .step node.id.kind ∧
      node.label = stepLabel (stepKey node.id.kind action) := by
  obtain ⟨moment, member, linked⟩ := history.exists_linked declared
  obtain ⟨action, kind, asked, isStep⟩ := Moment.exists_of_linked? linked
  obtain ⟨id, named, rfl, labelled⟩ := history.linked_declared member asked isStep
  obtain rfl := Option.some.inj (linked.symm.trans named)
  have same := List.inj_on_of_nodup_map history.ids_nodup declared labelled rfl
  exact ⟨moment, member, action, asked, isStep, congrArg Node.label same⟩

end History

/-- A builder with unique names, all of whose references are to declared nodes. -/
structure Builder.Named (builder : Builder) : Prop where
  numbered : ∀ index node, builder.nodes[index]? = some node →
    node.id.text = letter node.id.kind ++ toString (index + 1)
  given : ∀ name, name ∈ (textLines builder.text).filterMap givenName? ↔
    (∃ node ∈ builder.nodes, node.id.text = name) ∨
      ∃ number, 1 ≤ number ∧ number ≤ builder.tests ∧ testId number = name
  distinct : ((textLines builder.text).filterMap givenName?).Nodup
  once : ∀ node ∈ builder.nodes, (textLines builder.text).countP (givenName? · = some node.id.text) = 1
  shared : ∀ key id, (key, id) ∈ builder.shared →
    id.kind = key.kind ∧ ⟨id, stepLabel key⟩ ∈ builder.nodes
  apart : ∀ first second id, (first, id) ∈ builder.shared → (second, id) ∈ builder.shared →
    first = second
  stands : ∀ id, builder.topLevel.last = some id ∨ builder.trail.last = some id →
    id ∈ builder.nodes.map Node.id
  joins : ∀ edge ∈ builder.edges,
    edge.source ∈ builder.nodes.map Node.id ∧ edge.target ∈ builder.nodes.map Node.id

theorem Builder.Named.finished {builder : Builder} (named : builder.Named)
    (outside : builder.region = .topLevel) : Named { builder with phase := .finished } := by
  have stands := named.stands
  rw [builder.trail_of_topLevel outside] at stands
  exact { named with stands }

namespace History

variable {manualPrefix : String} {reuse : Reuse} {moments : List Moment} {builder : Builder}

theorem named (history : History (.fresh manualPrefix reuse) moments builder) : builder.Named := by
  obtain ⟨body, readable⟩ := history.readable
  have names : (textLines builder.text).filterMap givenName? = builder.lines.filterMap Line.name? := by
    rw [Builder.text, readable.lines, givenNames_textOf readable.legible]
  have distinct : (builder.lines.filterMap Line.name?).Nodup := by
    refine names_nodup history.ids_nodup ?_
    rw [history.tests_numbered]
    exact List.nodup_range'
  have given (name : String) : name ∈ (textLines builder.text).filterMap givenName? ↔
      (∃ node ∈ builder.nodes, node.id.text = name) ∨
        ∃ number, 1 ≤ number ∧ number ≤ builder.tests ∧ testId number = name := by
    have opened (number : Nat) :
        number ∈ List.range' 1 builder.tests ↔ 1 ≤ number ∧ number ≤ builder.tests := by
      rw [List.mem_range'_1]
      omega
    rw [names, mem_names_iff, history.tests_numbered]
    simp only [opened, and_assoc]
    rfl
  constructor
  · intro index node found
    rw [NodeId.text, history.number_of_getElem? found]
  · exact given
  · rwa [names]
  · intro node declared
    have among := (given node.id.text).mpr (.inl ⟨node, declared, rfl⟩)
    have counted := List.count_eq_one_of_mem (names ▸ distinct) among
    rw [List.count_filterMap] at counted
    rw [← counted]
    exact List.countP_congr fun text _ => by simp
  · intro key id entry
    exact history.shared_declared (history.sharedNode?_of_mem entry)
  · intro first second id entry other
    exact history.recorded.key_unique (history.sharedNode?_of_mem entry) (history.sharedNode?_of_mem other)
  · rintro id (stands | stands)
    · exact history.declared_of_along history.chained.topLevel stands
    · exact history.declared_of_along history.chained.current stands
  · exact fun edge => history.edge_declared

end History

/-- In whatever state operations lead to, the nodes have the letters of their kinds and are numbered through,
no name of a node or a test is given twice, and each node is declared in one line. All names that the builder
keeps are names of declared nodes, and a shared node is that of one key, with its kind and label. Each node
stems from a step of its kind. -/
theorem names_of_run {settings : Settings} {given : Option String} {builder : Builder}
    (started : Builder.start settings given = .ok builder) (operations : List Operation) :
    (builder.run operations).Named ∧
      ∀ node ∈ (builder.run operations).nodes, ∃ action, .add action ∈ operations ∧
        action.kind = .step node.id.kind ∧ node.label = stepLabel (stepKey node.id.kind action) := by
  obtain ⟨taken, unfinished, asked, reached⟩ :=
    Builder.exists_unfinished (Builder.start_running started) operations
  obtain ⟨history, -⟩ := History.of_run_started started unfinished
  have same : (builder.run operations).nodes = (builder.run taken).nodes := by
    rcases reached with same | ⟨-, same⟩
    · rw [same]
    · rw [same]
      rfl
  refine ⟨?_, ?_⟩
  · rcases reached with same | ⟨outside, same⟩
    · exact same ▸ history.named
    · exact same ▸ history.named.finished outside
  · intro node declared
    rw [same] at declared
    obtain ⟨moment, member, action, adds, isStep, label⟩ := history.node_of_step declared
    have among : .add action ∈ taken := by
      rw [← builder.moments_operations taken, ← adds]
      exact List.mem_map_of_mem member
    rcases asked _ among with given | ends
    · exact ⟨action, given, isStep, label⟩
    · cases ends

/-- The fourth node of the sample run is a visit, and no other line of the finished text names it. -/
theorem names_of_sample :
    Builder.start {} none = .ok sampleBuilder ∧
      (sampleBuilder.run (sampleRun ++ [.finish])).nodes[3]? =
        some ⟨⟨.navigate, 4⟩, "fa:fa-globe Navigate to /a'b end --> C1"⟩ ∧
      (NodeId.mk .navigate 4).text = "B" ++ toString 4 ∧
      (textLines (sampleBuilder.run (sampleRun ++ [.finish])).text).countP
        (givenName? · = some "B4") = 1 := by
  have fourth : (sampleBuilder.run (sampleRun ++ [.finish])).nodes[3]? =
      some ⟨⟨.navigate, 4⟩, "fa:fa-globe Navigate to /a'b end --> C1"⟩ := by decide
  obtain ⟨named, -⟩ := names_of_run sample_started (sampleRun ++ [.finish])
  have once := named.once _ (List.mem_of_getElem? fourth)
  have text : (NodeId.mk .navigate 4).text = "B4" := by decide
  rw [text] at once
  exact ⟨sample_started, fourth, named.numbered 3 _ fourth, once⟩

end TestFlow.Diagram

import TestFlow.Proofs.Diagram.Run

/-! # The steps of a region are chained by edges

A trail keeps the node it stands on and the edges drawn. Told without a state: the edges of a region
are the pairs of consecutive nodes that its steps are linked to, self-pairs left out, each pair once
and in the order of its first occurrence. A test has its steps for itself; the top level goes on where
it was left before a test.
-/

namespace TestFlow.Diagram

/-- The pairs of consecutive nodes of a path, self-pairs left out. -/
def transitions (path : List NodeId) : List Edge :=
  ((path.zip path.tail).filter fun pair => pair.1 ≠ pair.2).map fun pair => ⟨pair.1, pair.2⟩

/-- The edges of a path: each transition once, in the order of its first occurrence. -/
def pathEdges (path : List NodeId) : List Edge :=
  (transitions path).eraseDups

/-- The transition that going on from a node makes. -/
def transition? (last : Option NodeId) (id : NodeId) : Option Edge :=
  last.bind fun last => if last = id then none else some ⟨last, id⟩

theorem transitions_cons_cons (first second : NodeId) (rest : List NodeId) :
    transitions (first :: second :: rest) =
      (transition? (some first) second).toList ++ transitions (second :: rest) := by
  by_cases same : first = second <;> simp [transitions, transition?, same]

theorem transitions_append_singleton (path : List NodeId) (id : NodeId) :
    transitions (path ++ [id]) = transitions path ++ (transition? path.getLast? id).toList := by
  induction path with
  | nil => rfl
  | cons first rest ih =>
    cases rest with
    | nil =>
      change transitions [first, id] = [] ++ (transition? (some first) id).toList
      rw [transitions_cons_cons]
      exact List.append_nil _
    | cons second rest =>
      simp only [List.cons_append] at ih ⊢
      rw [transitions_cons_cons, ih, transitions_cons_cons, List.getLast?_cons_cons, List.append_assoc]

/-- A transition joins two nodes of its path. -/
theorem mem_of_mem_transitions {path : List NodeId} {edge : Edge} (walked : edge ∈ transitions path) :
    edge.source ∈ path ∧ edge.target ∈ path := by
  rw [transitions, List.mem_map] at walked
  obtain ⟨⟨source, target⟩, walked, rfl⟩ := walked
  obtain ⟨first, second⟩ := List.of_mem_zip (List.mem_filter.mp walked).1
  exact ⟨first, List.mem_of_mem_tail second⟩

theorem eraseDups_append_toList (edges : List Edge) (edge? : Option Edge) :
    (edges ++ edge?.toList).eraseDups = edges.eraseDups ++ (edge?.filter (· ∉ edges)).toList := by
  cases edge? with
  | none => simp
  | some edge =>
    rw [List.eraseDups_append]
    by_cases drawn : edge ∈ edges <;> simp [List.removeAll, Option.filter, drawn, List.eraseDups_cons]

/-- Going on draws the transition, unless that is drawn already. -/
theorem Trail.newEdge?_eq (trail : Trail) (id : NodeId) :
    trail.newEdge? id = (transition? trail.last id).filter (· ∉ trail.edges) := by
  cases stands : trail.last with
  | none => simp [newEdge?, transition?, stands]
  | some last =>
    by_cases same : last = id
    · simp [newEdge?, transition?, stands, same]
    · by_cases drawn : (⟨last, id⟩ : Edge) ∈ trail.edges <;>
        simp [newEdge?, transition?, Option.filter, stands, same, drawn]

/-- The trail along a path. -/
def Trail.along (path : List NodeId) : Trail :=
  path.foldl Trail.goTo {}

theorem Trail.along_append_singleton (path : List NodeId) (id : NodeId) :
    along (path ++ [id]) = (along path).goTo id := by
  simp only [along, List.foldl_append, List.foldl_cons, List.foldl_nil]

/-- A trail stands on the last node of its path and has drawn the edges of the path. -/
theorem Trail.along_eq (path : List NodeId) : along path = ⟨path.getLast?, pathEdges path⟩ := by
  induction path using List.reverseRecOn with
  | nil => rfl
  | append_singleton path id ih =>
    have drawn : pathEdges (path ++ [id]) =
        pathEdges path ++ ((transition? path.getLast? id).filter (· ∉ pathEdges path)).toList := by
      simp only [pathEdges, transitions_append_singleton, eraseDups_append_toList, List.mem_eraseDups]
    rw [along_append_singleton, ih, goTo, newEdge?_eq, List.getLast?_concat, drawn]

/-- The nodes that the steps of a region are linked to, in order. -/
def stopsIn (region : Region) (moments : List Moment) : List NodeId :=
  (moments.filter (·.region = region)).filterMap Moment.linked?

/-- The edges added in a region, in order. -/
def edgesIn (region : Region) (moments : List Moment) : List Edge :=
  (moments.filter (·.region = region)).flatMap Moment.newEdges

section Snoc

variable (region : Region) (moments : List Moment) (moment : Moment)

theorem stopsIn_append_singleton :
    stopsIn region (moments ++ [moment]) =
      stopsIn region moments ++ if moment.region = region then moment.linked?.toList else [] := by
  by_cases here : moment.region = region <;> cases linked : moment.linked? <;>
    simp [stopsIn, here, linked]

theorem edgesIn_append_singleton :
    edgesIn region (moments ++ [moment]) =
      edgesIn region moments ++ if moment.region = region then moment.newEdges else [] := by
  by_cases here : moment.region = region <;> simp [edgesIn, here]

end Snoc

/-- How the trails of a builder tell of the moments that led to it. -/
structure Chained (moments : List Moment) (builder : Builder) : Prop where
  topLevel : builder.topLevel = .along (stopsIn .topLevel moments)
  current : builder.trail = .along (stopsIn builder.region moments)
  drawn : ∀ region, edgesIn region moments = (Trail.along (stopsIn region moments)).edges
  ahead : ∀ number, builder.tests < number → stopsIn (.test number) moments = []

namespace Chained

variable {moments : List Moment} {builder : Builder} {operation : Operation} {kind : StepKind}
  {action : Action}

/-- An edge of a region joins nodes that steps of the region are linked to. -/
theorem mem_stopsIn (chained : Chained moments builder) {region : Region} {edge : Edge}
    (inRegion : edge ∈ edgesIn region moments) :
    edge.source ∈ stopsIn region moments ∧ edge.target ∈ stopsIn region moments := by
  rw [chained.drawn, Trail.along_eq, pathEdges, List.mem_eraseDups] at inRegion
  exact mem_of_mem_transitions inRegion

/-- A new test has its path for itself. -/
theorem opened (chained : Chained moments builder) (opened : operation.opened? = some action) :
    Chained (moments ++ [⟨builder, operation, builder.openTest action⟩]) (builder.openTest action) := by
  have stops (region : Region) :
      stopsIn region (moments ++ [⟨builder, operation, builder.openTest action⟩]) =
        stopsIn region moments := by
    simp [stopsIn_append_singleton, Moment.linked?_opened opened]
  constructor
  · rw [Builder.openTest_topLevel, stops, chained.topLevel]
  · rw [Builder.openTest_trail, Builder.openTest_region, stops, chained.ahead _ (Nat.lt_succ_self _)]
    rfl
  · intro region
    rw [edgesIn_append_singleton, stops, Moment.newEdges_opened, ite_self, List.append_nil]
    exact chained.drawn region
  · intro number later
    rw [Builder.openTest_tests] at later
    rw [stops]
    exact chained.ahead number (by omega)

/-- After a test the top level goes on where it was left. -/
theorem closed (chained : Chained moments builder) :
    Chained (moments ++ [⟨builder, .endTest, builder.closeTest⟩]) builder.closeTest := by
  have stops (region : Region) :
      stopsIn region (moments ++ [⟨builder, .endTest, builder.closeTest⟩]) = stopsIn region moments := by
    simp [stopsIn_append_singleton, Moment.linked?_closed]
  constructor
  · rw [Builder.closeTest_topLevel, stops, chained.topLevel]
  · rw [Builder.trail_of_topLevel _ builder.closeTest_region, Builder.closeTest_topLevel,
      Builder.closeTest_region, stops, chained.topLevel]
  · intro region
    rw [edgesIn_append_singleton, stops, Moment.newEdges_closed, ite_self, List.append_nil]
    exact chained.drawn region
  · intro number later
    rw [Builder.closeTest_tests] at later
    rw [stops]
    exact chained.ahead number later

/-- A step goes on along the path of its own region, and leaves every other path alone. -/
theorem stepped (chained : Chained moments builder) (isStep : action.kind = .step kind)
    (numbered : ∀ number, builder.region = .test number → number = builder.tests) :
    Chained (moments ++ [⟨builder, .add action, builder.takeStep kind action⟩])
      (builder.takeStep kind action) := by
  have here : Moment.region ⟨builder, .add action, builder.takeStep kind action⟩ = builder.region :=
    builder.takeStep_region kind action
  have stops (region : Region) :
      stopsIn region (moments ++ [⟨builder, .add action, builder.takeStep kind action⟩]) =
        stopsIn region moments ++
          if builder.region = region then [builder.nodeFor kind action] else [] := by
    rw [stopsIn_append_singleton, here, Moment.linked?_stepped isStep, Option.toList_some]
  constructor
  · rw [Builder.takeStep_topLevel, stops]
    split
    · rename_i outside
      rw [Trail.along_append_singleton, ← chained.topLevel, Builder.trail_of_topLevel _ outside]
    · rw [List.append_nil, chained.topLevel]
  · rw [Builder.takeStep_trail, Builder.takeStep_region, stops, if_pos rfl,
      Trail.along_append_singleton, ← chained.current]
  · intro region
    rw [edgesIn_append_singleton, here, stops, Moment.newEdges_stepped, chained.drawn]
    split
    · rename_i same
      rw [Trail.along_append_singleton, ← same, ← chained.current, Trail.goTo_edges]
    · simp
  · intro number later
    rw [Builder.takeStep_tests] at later
    have elsewhere : builder.region ≠ .test number := by
      intro same
      have := numbered number same
      omega
    rw [stops, if_neg elsewhere, List.append_nil]
    exact chained.ahead number later

end Chained

namespace History

variable {manualPrefix : String} {reuse : Reuse} {moments : List Moment} {builder : Builder}

theorem chained (history : History (.fresh manualPrefix reuse) moments builder) :
    Chained moments builder := by
  induction history with
  | start => exact ⟨rfl, rfl, fun _ => rfl, fun _ _ => rfl⟩
  | next past move ih =>
    cases move with
    | opened opened => exact ih.opened opened
    | closed => exact ih.closed
    | stepped isStep => exact ih.stepped isStep (fun _ => past.region_number)

/-- Every edge is added in some region. -/
theorem exists_mem_edgesIn (history : History (.fresh manualPrefix reuse) moments builder) {edge : Edge}
    (drawn : edge ∈ builder.edges) : ∃ region, edge ∈ edgesIn region moments := by
  rw [history.edges_eq, List.mem_append, List.mem_flatMap] at drawn
  obtain none | ⟨moment, member, drawn⟩ := drawn
  · cases none
  · exact ⟨moment.region,
      List.mem_flatMap.mpr ⟨moment, List.mem_filter.mpr ⟨member, decide_eq_true rfl⟩, drawn⟩⟩

end History

/-- In every region the edges drawn are the path that its steps walk, whatever is drawn elsewhere in
between; the diagram holds the edges of all regions in the order they are drawn. A region is the top
level or one of the tests opened, and a step is taken in the region that is current. -/
theorem edges_eq_walked_paths {settings : Settings} {given : Option String} {builder : Builder}
    {operations : List Operation} (started : Builder.start settings given = .ok builder)
    (unfinished : .finish ∉ operations) :
    operations.foldlM Builder.perform builder = .ok (builder.run operations) ∧
      (∀ region, edgesIn region (builder.moments operations) =
        pathEdges (stopsIn region (builder.moments operations))) ∧
      (builder.run operations).edges = (builder.moments operations).flatMap Moment.newEdges ∧
      (∀ moment ∈ builder.moments operations, moment.operation.isStep →
        moment.before.region = moment.region ∧ moment.after.trail.last = moment.linked?) ∧
      ((builder.moments operations).filter (·.operation.opened?.isSome)).map Moment.region =
        (List.range' 1 (builder.run operations).tests).map Region.test := by
  obtain ⟨history, performed⟩ := History.of_run_started started unfinished
  refine ⟨performed, ?_, history.edges_eq, ?_, history.opened_regions⟩
  · intro region
    rw [history.chained.drawn, Trail.along_eq]
  · intro moment member steps
    exact (history.move_of_mem member).2.1.step_stays steps

/-- The test walks to the click and back; the top level goes on behind the test where it was left. -/
theorem edges_of_sample :
    Builder.start {} none = .ok sampleBuilder ∧ .finish ∉ sampleRun ∧
      edgesIn (.test 1) (sampleBuilder.moments sampleRun) =
        [⟨⟨.navigate, 2⟩, ⟨.click, 3⟩⟩, ⟨⟨.click, 3⟩, ⟨.navigate, 2⟩⟩] ∧
      edgesIn .topLevel (sampleBuilder.moments sampleRun) = [⟨⟨.navigate, 1⟩, ⟨.navigate, 4⟩⟩] := by
  obtain ⟨-, walked, -⟩ := edges_eq_walked_paths sample_started sample_unfinished
  exact ⟨sample_started, sample_unfinished, (walked (.test 1)).trans rfl, (walked .topLevel).trans rfl⟩

end TestFlow.Diagram

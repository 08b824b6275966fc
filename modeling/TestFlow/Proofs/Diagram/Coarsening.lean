import Mathlib.Data.List.Pairwise
import Mathlib.Data.List.Perm.Subperm
import TestFlow.Proofs.Diagram.ReadBack
import TestFlow.Proofs.Diagram.Renaming
import TestFlow.Proofs.Diagram.Sharing

/-! # Sharing across the run is a quotient of sharing within tests

Two builders take the same operations; the narrow one shares nodes within tests, the wide one across the
run. Steps that are linked to one node of the narrow diagram are linked to one node of the wide one, so that
the nodes of the first are mapped onto those of the second. Within a test the map identifies nothing, since
sharing reaches equally far there: each test of the wide diagram has the path of the narrow one, mapped.
-/

namespace TestFlow.Diagram

/-! ## Two runs side by side -/

/-- The moments of the two builders, pairwise. -/
inductive Twins (manualPrefix : String) : List (Moment × Moment) → Builder → Builder → Prop where
  | start : Twins manualPrefix [] (.fresh manualPrefix .withinTest) (.fresh manualPrefix .acrossRun)
  | next {pairs : List (Moment × Moment)} {narrow narrowNext wide wideNext : Builder}
      {operation : Operation} (twins : Twins manualPrefix pairs narrow wide)
      (narrowMove : Move narrow operation narrowNext) (wideMove : Move wide operation wideNext) :
      Twins manualPrefix (pairs ++ [(⟨narrow, operation, narrowNext⟩, ⟨wide, operation, wideNext⟩)])
        narrowNext wideNext

/-- Builders that are asked for the same move alike. -/
theorem Move.alike {narrow narrowNext wide wideNext : Builder} {operation : Operation}
    (narrowMove : Move narrow operation narrowNext) (wideMove : Move wide operation wideNext) :
    (∃ action, operation.opened? = some action ∧ narrowNext = narrow.openTest action ∧
        wideNext = wide.openTest action) ∨
      (operation = .endTest ∧ narrowNext = narrow.closeTest ∧ wideNext = wide.closeTest) ∨
      ∃ kind action, operation = .add action ∧ action.kind = .step kind ∧
        narrowNext = narrow.takeStep kind action ∧ wideNext = wide.takeStep kind action := by
  cases narrowMove with
  | @opened _ action opened =>
    refine .inl ⟨action, opened, rfl, ?_⟩
    cases wideMove with
    | opened same =>
      obtain rfl := Option.some.inj (opened.symm.trans same)
      rfl
    | closed => cases opened
    | stepped isStep =>
      rw [Operation.opened?_of_kind isStep] at opened
      cases opened
  | closed =>
    refine .inr (.inl ⟨rfl, rfl, ?_⟩)
    cases wideMove with
    | opened opened => cases opened
    | closed => rfl
  | @stepped kind action isStep =>
    exact .inr (.inr ⟨kind, action, rfl, isStep, rfl, wideMove.eq_takeStep isStep⟩)

/-- Only steps are linked to nodes. -/
theorem Moment.exists_of_linked? {moment : Moment} {id : NodeId} (linked : moment.linked? = some id) :
    ∃ action kind, moment.operation = .add action ∧ action.kind = .step kind := by
  unfold linked? at linked
  split at linked
  · rename_i action asked
    split at linked
    · exact ⟨action, _, asked, ‹_›⟩
    · cases linked
  · cases linked

namespace History

variable {manualPrefix : String} {reuse : Reuse} {moments : List Moment} {builder : Builder}

theorem number_le_tests (history : History (.fresh manualPrefix reuse) moments builder) {moment : Moment}
    (member : moment ∈ moments) {number : Nat} (inside : moment.region = .test number) :
    number ≤ builder.tests := by
  induction history with
  | start => cases member
  | next past move ih =>
    rcases List.mem_append.mp member with early | last
    · have bound := ih early
      cases move with
      | opened _ =>
        rw [Builder.openTest_tests]
        omega
      | closed => rwa [Builder.closeTest_tests]
      | stepped _ => rwa [Builder.takeStep_tests]
    · obtain rfl := List.mem_singleton.mp last
      exact Nat.le_of_eq ((past.next move).region_number inside)

/-- No border is crossed from one moment of a test to another. -/
theorem stays_in_test (history : History (.fresh manualPrefix reuse) moments builder)
    {earlier since : List Moment} {moment : Moment} {number : Nat}
    (split : moments = earlier ++ moment :: since) (before : moment.region = .test number)
    (now : builder.region = .test number) : ∀ later ∈ since, later.crossesBorder = false := by
  induction history generalizing earlier since with
  | start => simp at split
  | next past move ih =>
    rcases last_or_before split with ⟨-, rfl⟩ | ⟨rest, rfl, found⟩
    · intro later member
      cases member
    · cases move with
      | opened _ =>
        have member : moment ∈ _ := found ▸ List.mem_append_right _ List.mem_cons_self
        have bound := past.number_le_tests member before
        rw [Builder.openTest_region, Region.test.injEq] at now
        omega
      | closed =>
        rw [Builder.closeTest_region] at now
        cases now
      | stepped isStep =>
        rw [Builder.takeStep_region] at now
        intro later member
        rcases List.mem_append.mp member with early | last
        · exact ih found now later early
        · rw [List.mem_singleton.mp last]
          simp [Moment.crossesBorder, Operation.opened?_of_kind isStep]

/-- Every declared node is the one that some step is linked to. -/
theorem exists_linked (history : History (.fresh manualPrefix reuse) moments builder) {node : Node}
    (declared : node ∈ builder.nodes) : ∃ moment ∈ moments, moment.linked? = some node.id := by
  induction history with
  | start => cases declared
  | @next past builder _ _ _ move ih =>
    have earlier {last : Moment} (old : node ∈ builder.nodes) :
        ∃ moment ∈ past ++ [last], moment.linked? = some node.id := by
      obtain ⟨moment, member, linked⟩ := ih old
      exact ⟨moment, List.mem_append_left _ member, linked⟩
    cases move with
    | opened _ =>
      rw [Builder.openTest_nodes] at declared
      exact earlier declared
    | closed =>
      rw [Builder.closeTest_nodes] at declared
      exact earlier declared
    | @stepped kind action isStep =>
      rw [Builder.takeStep_nodes, List.mem_append] at declared
      rcases declared with old | new
      · exact earlier old
      · refine ⟨_, List.mem_append_right _ (List.mem_singleton_self _), ?_⟩
        rw [Moment.linked?_stepped isStep]
        rcases builder.nodeFor_cases kind action with ⟨fresh, declares⟩ | ⟨-, -, nothing⟩
        · rw [declares, Option.toList_some, List.mem_singleton] at new
          rw [new, fresh]
        · simp [nothing] at new

end History

namespace Twins

variable {manualPrefix : String} {pairs : List (Moment × Moment)} {narrow wide : Builder}

theorem narrowHistory (twins : Twins manualPrefix pairs narrow wide) :
    History (.fresh manualPrefix .withinTest) (pairs.map Prod.fst) narrow := by
  induction twins with
  | start => exact .start
  | next _ narrowMove _ ih =>
    rw [List.map_append, List.map_singleton]
    exact ih.next narrowMove

theorem wideHistory (twins : Twins manualPrefix pairs narrow wide) :
    History (.fresh manualPrefix .acrossRun) (pairs.map Prod.snd) wide := by
  induction twins with
  | start => exact .start
  | next _ _ wideMove ih =>
    rw [List.map_append, List.map_singleton]
    exact ih.next wideMove

/-- Two runs of the same operations are twins. -/
theorem of_run (manualPrefix : String) {operations : List Operation} (unfinished : .finish ∉ operations) :
    ∃ pairs, Twins manualPrefix pairs ((Builder.fresh manualPrefix .withinTest).run operations)
        ((Builder.fresh manualPrefix .acrossRun).run operations) ∧
      pairs.map Prod.fst = (Builder.fresh manualPrefix .withinTest).moments operations ∧
      pairs.map Prod.snd = (Builder.fresh manualPrefix .acrossRun).moments operations := by
  induction operations using List.reverseRecOn with
  | nil => exact ⟨[], .start, rfl, rfl⟩
  | append_singleton operations operation ih =>
    simp only [List.mem_append, List.mem_singleton, not_or] at unfinished
    obtain ⟨pairs, twins, narrowMoments, wideMoments⟩ := ih unfinished.1
    have fresh (reuse : Reuse) : (Builder.fresh manualPrefix reuse).phase ≠ .finished := by
      simp [Builder.fresh]
    obtain ⟨narrowNext, narrowDone, narrowMove⟩ :=
      Move.of_perform (twins.narrowHistory.running (fresh _)) (Ne.symm unfinished.2)
    obtain ⟨wideNext, wideDone, wideMove⟩ :=
      Move.of_perform (twins.wideHistory.running (fresh _)) (Ne.symm unfinished.2)
    have moved (builder : Builder) : builder.run (operations ++ [operation]) =
        (builder.run operations).attempt operation := by
      rw [Builder.run_append]
      rfl
    rw [moved, moved, Builder.attempt_of_perform narrowDone, Builder.attempt_of_perform wideDone]
    refine ⟨_, twins.next narrowMove wideMove, ?_, ?_⟩
    · simp only [List.map_append, List.map_singleton, narrowMoments, Builder.moments_append, Builder.moments,
        Builder.attempt_of_perform narrowDone]
    · simp only [List.map_append, List.map_singleton, wideMoments, Builder.moments_append, Builder.moments,
        Builder.attempt_of_perform wideDone]

/-- Twins stand in one region, and have opened equally many tests. -/
theorem region_eq (twins : Twins manualPrefix pairs narrow wide) :
    narrow.region = wide.region ∧ narrow.tests = wide.tests := by
  induction twins with
  | start => exact ⟨rfl, rfl⟩
  | next _ narrowMove wideMove ih =>
    obtain ⟨sameRegion, sameCount⟩ := ih
    rcases narrowMove.alike wideMove with ⟨_, -, rfl, rfl⟩ | ⟨-, rfl, rfl⟩ | ⟨_, _, -, -, rfl, rfl⟩
    · simp only [Builder.openTest_region, Builder.openTest_tests, sameCount, and_self]
    · simp only [Builder.closeTest_region, Builder.closeTest_tests, sameCount, and_self]
    · simp only [Builder.takeStep_region, Builder.takeStep_tests, sameRegion, sameCount, and_self]

/-- The two moments of a pair do the same in the same region. -/
theorem pair_eq (twins : Twins manualPrefix pairs narrow wide) {pair : Moment × Moment}
    (member : pair ∈ pairs) :
    pair.1.operation = pair.2.operation ∧ pair.1.region = pair.2.region := by
  induction twins with
  | start => cases member
  | next twins narrowMove wideMove ih =>
    rcases List.mem_append.mp member with early | last
    · exact ih early
    · obtain rfl := List.mem_singleton.mp last
      exact ⟨rfl, (twins.next narrowMove wideMove).region_eq.1⟩

end Twins

/-! ## The nodes of one run in the other -/

/-- Steps on one narrow node are on one wide node, and in one test the converse holds too. -/
structure Coheres (first second : Moment × Moment) : Prop where
  widens : ∀ id, first.1.linked? = some id → second.1.linked? = some id →
    first.2.linked? = second.2.linked?
  narrows : ∀ number id, first.1.region = .test number → second.1.region = .test number →
    first.2.linked? = some id → second.2.linked? = some id → first.1.linked? = second.1.linked?

instance : Std.Symm Coheres where
  symm _ _ coheres :=
    ⟨fun id here there => (coheres.widens id there here).symm,
      fun number id inFirst inSecond here there =>
        (coheres.narrows number id inSecond inFirst there here).symm⟩

theorem Coheres.of_unlinked {first second : Moment × Moment} (narrow : second.1.linked? = none)
    (wide : second.2.linked? = none) : Coheres first second := by
  constructor
  · intro id _ linked
    rw [narrow] at linked
    cases linked
  · intro number id _ _ _ linked
    rw [wide] at linked
    cases linked

namespace Twins

variable {manualPrefix : String} {pairs : List (Moment × Moment)} {narrow wide : Builder}

/-- The next step coheres with every earlier one: what the narrow builder shares the wide one shares, and
nothing but a border between the two keeps the narrow one from sharing. -/
theorem coheres_step (twins : Twins manualPrefix pairs narrow wide) {kind : StepKind} {action : Action}
    (isStep : action.kind = .step kind) {first : Moment × Moment} (member : first ∈ pairs) :
    Coheres first (⟨narrow, .add action, narrow.takeStep kind action⟩,
      ⟨wide, .add action, wide.takeStep kind action⟩) := by
  obtain ⟨earlier, between, rfl⟩ := List.append_of_mem member
  obtain ⟨sameOperation, -⟩ := twins.pair_eq member
  have narrowHistory := twins.narrowHistory
  have wideHistory := twins.wideHistory
  rw [List.map_append, List.map_cons] at narrowHistory wideHistory
  have acrossRun : wide.reuse = .acrossRun := wideHistory.reuse
  have reachesWide : wide.reuse.reaches (between.map Prod.snd) = true := by
    rw [acrossRun]
    rfl
  constructor
  · intro id here there
    obtain ⟨firstAction, firstKind, asked, firstStep⟩ := Moment.exists_of_linked? here
    rw [Moment.linked?_stepped isStep] at there ⊢
    rw [← there, narrowHistory.linked_eq_iff asked firstStep] at here
    obtain ⟨firstShares, shares, sameKey, -⟩ := here
    rw [wideHistory.linked_eq_iff (sameOperation ▸ asked) firstStep]
    exact ⟨firstShares, shares, sameKey, reachesWide⟩
  · intro number id inFirst inSecond here there
    obtain ⟨firstAction, firstKind, asked, firstStep⟩ := Moment.exists_of_linked? here
    rw [Moment.linked?_stepped isStep] at there ⊢
    rw [← there, wideHistory.linked_eq_iff asked firstStep] at here
    obtain ⟨firstShares, shares, sameKey, -⟩ := here
    rw [narrowHistory.linked_eq_iff (sameOperation.symm ▸ asked) firstStep]
    refine ⟨firstShares, shares, sameKey, ?_⟩
    have inTest : narrow.region = .test number := (narrow.takeStep_region kind action).symm.trans inSecond
    rw [Reuse.reaches_iff]
    exact .inr ⟨narrowHistory.reuse, narrowHistory.stays_in_test rfl inFirst inTest⟩

/-- All steps cohere. -/
theorem coheres (twins : Twins manualPrefix pairs narrow wide) {first second : Moment × Moment}
    (first_mem : first ∈ pairs) (second_mem : second ∈ pairs) : Coheres first second := by
  -- a step is compared with the ones before it only; symmetry gives the rest
  have pairwise : pairs.Pairwise Coheres := by
    clear first_mem second_mem
    induction twins with
    | start => exact .nil
    | next twins narrowMove wideMove ih =>
      refine List.pairwise_append.mpr ⟨ih, List.pairwise_singleton _ _, ?_⟩
      intro first member second last
      obtain rfl := List.mem_singleton.mp last
      rcases narrowMove.alike wideMove with
        ⟨action, opened, rfl, rfl⟩ | ⟨rfl, rfl, rfl⟩ | ⟨kind, action, rfl, isStep, rfl, rfl⟩
      · exact .of_unlinked (Moment.linked?_opened opened) (Moment.linked?_opened opened)
      · exact .of_unlinked Moment.linked?_closed Moment.linked?_closed
      · exact twins.coheres_step isStep member
  exact pairwise.forall_of_forall (fun _ _ => ⟨fun _ _ _ => rfl, fun _ _ _ _ _ _ => rfl⟩) first_mem
    second_mem

end Twins

/-- The wide node for a narrow one: the one that the first step on it is linked to in the wide run. -/
def counterpart (pairs : List (Moment × Moment)) (id : NodeId) : NodeId :=
  ((pairs.find? (·.1.linked? = some id)).bind (·.2.linked?)).getD id

namespace Twins

variable {manualPrefix : String} {pairs : List (Moment × Moment)} {narrow wide : Builder}

/-- Wherever a step is linked to in the narrow run, in the wide run it is linked to the counterpart. -/
theorem linked?_counterpart (twins : Twins manualPrefix pairs narrow wide) {pair : Moment × Moment}
    (member : pair ∈ pairs) : pair.2.linked? = pair.1.linked?.map (counterpart pairs) := by
  obtain ⟨sameOperation, -⟩ := twins.pair_eq member
  cases linked : pair.1.linked? with
  | none =>
    rw [Option.map_none, Option.eq_none_iff_forall_ne_some]
    intro id wideLinked
    obtain ⟨action, kind, asked, isStep⟩ := Moment.exists_of_linked? wideLinked
    rw [Moment.linked?, sameOperation, asked] at linked
    simp [isStep] at linked
  | some id =>
    cases found : pairs.find? (·.1.linked? = some id) with
    | none =>
      have none := List.find?_eq_none.mp found pair member
      simp [linked] at none
    | some first =>
      have firstLinked : first.1.linked? = some id := by simpa using List.find?_some found
      have sameWide :=
        (twins.coheres (List.mem_of_find?_eq_some found) member).widens id firstLinked linked
      cases wideLinked : pair.2.linked? with
      | none =>
        obtain ⟨action, kind, asked, isStep⟩ := Moment.exists_of_linked? linked
        rw [Moment.linked?, ← sameOperation, asked] at wideLinked
        simp [isStep] at wideLinked
      | some wideId => simp [counterpart, found, sameWide, wideLinked]

/-- Within a test no two nodes have one counterpart. -/
theorem counterpart_injective (twins : Twins manualPrefix pairs narrow wide) {number : Nat}
    {first second : NodeId} (first_mem : first ∈ stopsIn (.test number) (pairs.map Prod.fst))
    (second_mem : second ∈ stopsIn (.test number) (pairs.map Prod.fst))
    (same : counterpart pairs first = counterpart pairs second) : first = second := by
  have step {id : NodeId} (stop : id ∈ stopsIn (.test number) (pairs.map Prod.fst)) :
      ∃ pair ∈ pairs, pair.1.region = .test number ∧ pair.1.linked? = some id ∧
        pair.2.linked? = some (counterpart pairs id) := by
    obtain ⟨moment, inTest, linked⟩ := List.mem_filterMap.mp stop
    obtain ⟨among, region⟩ := List.mem_filter.mp inTest
    obtain ⟨pair, member, rfl⟩ := List.mem_map.mp among
    refine ⟨pair, member, by simpa using region, linked, ?_⟩
    rw [twins.linked?_counterpart member, linked, Option.map_some]
  obtain ⟨pair, member, region, linked, wideLinked⟩ := step first_mem
  obtain ⟨other, otherMember, otherRegion, otherLinked, otherWide⟩ := step second_mem
  rw [← same] at otherWide
  have narrowed := (twins.coheres member otherMember).narrows number _ region otherRegion wideLinked otherWide
  exact Option.some.inj (linked.symm.trans (narrowed.trans otherLinked))

end Twins

/-! ## Paths of twins -/

/-- Moments that are linked to mapped nodes, in the same regions, walk mapped paths. -/
theorem stopsIn_map {f : NodeId → NodeId} {pairs : List (Moment × Moment)}
    (alike : ∀ pair ∈ pairs, pair.1.region = pair.2.region ∧ pair.2.linked? = pair.1.linked?.map f)
    (region : Region) :
    stopsIn region (pairs.map Prod.snd) = (stopsIn region (pairs.map Prod.fst)).map f := by
  induction pairs with
  | nil => rfl
  | cons pair rest ih =>
    obtain ⟨sameRegion, linked⟩ := alike pair List.mem_cons_self
    have later := ih fun other member => alike other (List.mem_cons_of_mem _ member)
    simp only [stopsIn, List.map_cons, List.filter_cons, ← sameRegion] at later ⊢
    split
    · cases narrowLinked : pair.1.linked? <;> simp [linked, narrowLinked, later]
    · exact later

/-! ## The quotient -/

/-- A map of the nodes of one run onto those of another run of the same operations: it goes along with the
links, keeps kinds and labels, leaves no node out, and identifies nothing within a test. -/
structure Coarsening (narrow wide : Builder) (operations : List Operation) (f : NodeId → NodeId) : Prop where
  linked : ∀ (index : Nat) (first second : Moment), (narrow.moments operations)[index]? = some first →
    (wide.moments operations)[index]? = some second → second.linked? = first.linked?.map f
  declared : ∀ node ∈ (narrow.run operations).nodes,
    (f node.id).kind = node.id.kind ∧ node.map f ∈ (wide.run operations).nodes
  onto : ∀ node ∈ (wide.run operations).nodes, ∃ source ∈ (narrow.run operations).nodes,
    f source.id = node.id
  injective : ∀ number, ∀ first ∈ stopsIn (.test number) (narrow.moments operations),
    ∀ second ∈ stopsIn (.test number) (narrow.moments operations), f first = f second → first = second

namespace Twins

variable {manualPrefix : String} {pairs : List (Moment × Moment)} {narrow wide : Builder}

theorem counterpart_declared (twins : Twins manualPrefix pairs narrow wide) {node : Node}
    (declared : node ∈ narrow.nodes) :
    (counterpart pairs node.id).kind = node.id.kind ∧
      node.map (counterpart pairs) ∈ wide.nodes := by
  obtain ⟨moment, member, linked⟩ := twins.narrowHistory.exists_linked declared
  obtain ⟨pair, among, rfl⟩ := List.mem_map.mp member
  obtain ⟨action, kind, asked, isStep⟩ := Moment.exists_of_linked? linked
  obtain ⟨sameOperation, -⟩ := twins.pair_eq among
  obtain ⟨id, here, ofKind, labelled⟩ := twins.narrowHistory.linked_declared member asked isStep
  obtain rfl := Option.some.inj (here.symm.trans linked)
  have itself := List.inj_on_of_nodup_map twins.narrowHistory.ids_nodup declared labelled rfl
  obtain ⟨wideId, there, wideKind, wideLabelled⟩ := twins.wideHistory.linked_declared
    (List.mem_map_of_mem among) (sameOperation ▸ asked) isStep
  rw [twins.linked?_counterpart among, linked, Option.map_some, Option.some.injEq] at there
  subst there
  have label : node.label = stepLabel (stepKey kind action) := congrArg Node.label itself
  rw [Node.map, label]
  exact ⟨wideKind.trans ofKind.symm, wideLabelled⟩

theorem counterpart_onto (twins : Twins manualPrefix pairs narrow wide) {node : Node}
    (declared : node ∈ wide.nodes) : ∃ source ∈ narrow.nodes, counterpart pairs source.id = node.id := by
  obtain ⟨moment, member, linked⟩ := twins.wideHistory.exists_linked declared
  obtain ⟨pair, among, rfl⟩ := List.mem_map.mp member
  obtain ⟨action, kind, asked, isStep⟩ := Moment.exists_of_linked? linked
  obtain ⟨sameOperation, -⟩ := twins.pair_eq among
  obtain ⟨id, here, -, labelled⟩ := twins.narrowHistory.linked_declared
    (List.mem_map_of_mem among) (sameOperation.symm ▸ asked) isStep
  rw [twins.linked?_counterpart among, here, Option.map_some, Option.some.injEq] at linked
  exact ⟨_, labelled, linked⟩

theorem length_nodes_le (twins : Twins manualPrefix pairs narrow wide) :
    wide.nodes.length ≤ narrow.nodes.length := by
  have covered : wide.nodes.map Node.id ⊆ narrow.nodes.map fun node => counterpart pairs node.id := by
    intro id member
    obtain ⟨node, declared, rfl⟩ := List.mem_map.mp member
    obtain ⟨source, among, same⟩ := twins.counterpart_onto declared
    exact List.mem_map.mpr ⟨source, among, same⟩
  have bound := (twins.wideHistory.ids_nodup.subperm covered).length_le
  simpa using bound

/-- The edges of a test in the wide run are the counterparts of its edges in the narrow one. -/
theorem edgesIn_test (twins : Twins manualPrefix pairs narrow wide) (number : Nat) :
    edgesIn (.test number) (pairs.map Prod.snd) =
      (edgesIn (.test number) (pairs.map Prod.fst)).map (Edge.map (counterpart pairs)) := by
  have stops := stopsIn_map
    (fun pair member => ⟨(twins.pair_eq member).2, twins.linked?_counterpart member⟩) (.test number)
  rw [twins.wideHistory.chained.drawn, twins.narrowHistory.chained.drawn, Trail.along_eq, Trail.along_eq,
    stops]
  apply pathEdges_map
  intro first firstMem second secondMem
  exact twins.counterpart_injective firstMem secondMem

end Twins

/-- The edges that an outline has in a region, in order. -/
def Outline.edgesAt (outline : Outline) (region : Region) : List Edge :=
  (outline.edges.filter (·.1 = region)).map (·.2)

theorem outlineOf_edgesAt (manualPrefix : String) (moments : List Moment) (region : Region) :
    (outlineOf manualPrefix moments).edgesAt region = edgesIn region moments := by
  induction moments with
  | nil => rfl
  | cons moment rest ih =>
    simp only [Outline.edgesAt, outlineOf, edgesIn, List.flatMap_cons, List.filter_append,
      List.map_append, List.filter_map, List.filter_cons] at ih ⊢
    rw [ih]
    by_cases here : moment.region = region <;> simp [here, Function.comp_def]

/-- The diagram with nodes shared across the run is a quotient of the one with nodes shared within tests: the
nodes of the second are mapped onto those of the first, each step with its link, and every test has its
header and its mapped edges in order. -/
theorem acrossRun_coarsens_withinTest {settings : Settings} {narrowGiven wideGiven : Option String}
    {narrow wide : Builder} {operations : List Operation}
    (narrowStarted : Builder.start settings narrowGiven = .ok narrow)
    (narrowReuse : narrow.reuse = .withinTest) (wideStarted : Builder.start settings wideGiven = .ok wide)
    (wideReuse : wide.reuse = .acrossRun)
    (unfinished : .finish ∉ operations) :
    operations.foldlM Builder.perform narrow = .ok (narrow.run operations) ∧
      operations.foldlM Builder.perform wide = .ok (wide.run operations) ∧
      (∀ moment ∈ narrow.moments operations ++ wide.moments operations, moment.operation.isStep →
        moment.after.trail.last = moment.linked?) ∧
      (wide.run operations).nodes.length ≤ (narrow.run operations).nodes.length ∧
      ∃ f narrowOutline wideOutline, Coarsening narrow wide operations f ∧
        Outline.ofText? (narrow.run operations).finish.text = some narrowOutline ∧
        Outline.ofText? (wide.run operations).finish.text = some wideOutline ∧
        wideOutline.tests = narrowOutline.tests ∧
        ∀ number, wideOutline.edgesAt (.test number) =
          (narrowOutline.edgesAt (.test number)).map (Edge.map f) := by
  obtain ⟨narrowHistory, narrowPerformed⟩ := History.of_run_started narrowStarted unfinished
  obtain ⟨wideHistory, widePerformed⟩ := History.of_run_started wideStarted unfinished
  obtain ⟨pairs, twins, narrowMoments, wideMoments⟩ := Twins.of_run settings.manualPrefix unfinished
  rw [← narrowReuse, ← Builder.start_eq_fresh narrowStarted, ← wideReuse,
    ← Builder.start_eq_fresh wideStarted] at twins
  rw [← narrowReuse, ← Builder.start_eq_fresh narrowStarted] at narrowMoments
  rw [← wideReuse, ← Builder.start_eq_fresh wideStarted] at wideMoments
  refine ⟨narrowPerformed, widePerformed, ?_, twins.length_nodes_le, counterpart pairs, _, _, ?_,
    narrowHistory.ofText?_finish, wideHistory.ofText?_finish, ?_, ?_⟩
  · intro moment member steps
    rcases List.mem_append.mp member with early | late
    · exact ((narrowHistory.move_of_mem early).2.1.step_stays steps).2
    · exact ((wideHistory.move_of_mem late).2.1.step_stays steps).2
  · constructor
    · intro index first second atNarrow atWide
      rw [← narrowMoments, List.getElem?_map, Option.map_eq_some_iff] at atNarrow
      rw [← wideMoments, List.getElem?_map, Option.map_eq_some_iff] at atWide
      obtain ⟨pair, found, rfl⟩ := atNarrow
      obtain ⟨other, also, rfl⟩ := atWide
      obtain rfl := Option.some.inj (found.symm.trans also)
      exact twins.linked?_counterpart (List.mem_of_getElem? found)
    · intro node declared
      exact twins.counterpart_declared declared
    · intro node declared
      exact twins.counterpart_onto declared
    · intro number first firstMem second secondMem
      rw [← narrowMoments] at firstMem secondMem
      exact twins.counterpart_injective firstMem secondMem
  · rw [outlineOf_tests, outlineOf_tests]
  · intro number
    rw [outlineOf_edgesAt, outlineOf_edgesAt, ← narrowMoments, ← wideMoments]
    exact twins.edgesIn_test number

/-- In the sample the three nodes of the visit become one. -/
theorem coarsening_of_sample :
    Builder.start {} (some "test") = .ok sampleBuilder ∧ sampleBuilder.reuse = .withinTest ∧
      Builder.start {} (some "run") = .ok (.fresh "Manual test - " .acrossRun) ∧ .finish ∉ sampleRun ∧
      ∃ f, Coarsening sampleBuilder (.fresh "Manual test - " .acrossRun) sampleRun f ∧
        f ⟨.navigate, 1⟩ = ⟨.navigate, 1⟩ ∧ f ⟨.navigate, 2⟩ = ⟨.navigate, 1⟩ ∧
        f ⟨.click, 3⟩ = ⟨.click, 2⟩ ∧ f ⟨.navigate, 4⟩ = ⟨.navigate, 1⟩ := by
  have narrow : Builder.start {} (some "test") = .ok sampleBuilder := rfl
  have wide : Builder.start {} (some "run") = .ok (.fresh "Manual test - " .acrossRun) := rfl
  obtain ⟨-, -, -, -, f, -, -, coarsening, -⟩ :=
    acrossRun_coarsens_withinTest narrow rfl wide rfl sample_unfinished
  have visit := coarsening.linked 0 _ _ rfl rfl
  have visitInTest := coarsening.linked 2 _ _ rfl rfl
  have click := coarsening.linked 3 _ _ rfl rfl
  have visitBehind := coarsening.linked 6 _ _ rfl rfl
  refine ⟨narrow, rfl, wide, sample_unfinished, f, coarsening, ?_, ?_, ?_, ?_⟩
  · exact (Option.some.inj visit).symm
  · exact (Option.some.inj visitInTest).symm
  · exact (Option.some.inj click).symm
  · exact (Option.some.inj visitBehind).symm

end TestFlow.Diagram

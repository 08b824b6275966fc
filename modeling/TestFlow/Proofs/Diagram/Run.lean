import Mathlib.Data.List.Induction
import Mathlib.Data.List.Nodup
import TestFlow.Proofs.Diagram.Step

/-! # Runs of a builder

A run is a sequence of operations, kept as the moments it consists of: each operation with the builder
before and after it. No operation is refused before a builder is finished, so that a run goes on by
opening a test, by closing one or by a step. `History` is the induction over these three.
-/

namespace TestFlow.Diagram

namespace Operation

/-- Whether an operation takes a step. -/
def isStep : Operation → Bool
  | .add action => action.kind ≠ .testStart
  | _ => false

/-- The action that names the test an operation opens. -/
def opened? : Operation → Option Action
  | .add action => if action.kind = .testStart then some action else none
  | .startTest action => some action
  | _ => none

theorem isStep_of_kind {action : Action} {kind : StepKind} (isStep : action.kind = .step kind) :
    (Operation.add action).isStep = true := by
  simp [Operation.isStep, isStep]

theorem exists_of_isStep {operation : Operation} (steps : operation.isStep) :
    ∃ action kind, operation = .add action ∧ action.kind = .step kind := by
  cases operation with
  | add action =>
    cases asked : action.kind with
    | testStart => simp [isStep, asked] at steps
    | step kind => exact ⟨action, kind, rfl, asked⟩
  | _ => cases steps

theorem opened?_of_kind {action : Action} {kind : StepKind} (isStep : action.kind = .step kind) :
    (Operation.add action).opened? = none := by
  simp [opened?, isStep]

@[simp] theorem opened?_endTest : endTest.opened? = none := rfl

end Operation

/-- One operation of a run, with the builder before and after it. -/
structure Moment where
  before : Builder
  operation : Operation
  after : Builder
deriving Repr, Inhabited

namespace Moment

/-- The region an operation leads to; a step stays in its own. -/
def region (moment : Moment) : Region :=
  moment.after.region

/-- The node a step is linked to: the one its key shares, or else the one it declares. -/
def linked? (moment : Moment) : Option NodeId :=
  match moment.operation with
  | .add action =>
    match action.kind with
    | .step kind => some (moment.before.nodeFor kind action)
    | .testStart => none
  | _ => none

/-- The nodes an operation declares. -/
def newNodes (moment : Moment) : List Node :=
  moment.after.nodes.drop moment.before.nodes.length

/-- The edges an operation adds. -/
def newEdges (moment : Moment) : List Edge :=
  moment.after.edges.drop moment.before.edges.length

/-- Whether an operation opens a test or closes one; none is closed where none is open. -/
def crossesBorder (moment : Moment) : Bool :=
  moment.operation.opened?.isSome || (moment.operation = .endTest && moment.before.isInTest)

section Kinds

variable {builder : Builder} {operation : Operation} {kind : StepKind} {action : Action}

theorem linked?_opened (opened : operation.opened? = some action) :
    linked? ⟨builder, operation, builder.openTest action⟩ = none := by
  cases operation with
  | add given =>
    simp only [Operation.opened?, Option.ite_none_right_eq_some] at opened
    simp only [linked?, opened.1]
  | _ => rfl

theorem linked?_closed : linked? ⟨builder, .endTest, builder.closeTest⟩ = none := rfl

theorem linked?_stepped (isStep : action.kind = .step kind) :
    linked? ⟨builder, .add action, builder.takeStep kind action⟩ = some (builder.nodeFor kind action) := by
  simp only [linked?, isStep]

theorem newNodes_opened : newNodes ⟨builder, operation, builder.openTest action⟩ = [] := by
  simp [newNodes, Builder.openTest_nodes]

theorem newNodes_closed : newNodes ⟨builder, .endTest, builder.closeTest⟩ = [] := by
  simp [newNodes, Builder.closeTest_nodes]

theorem newNodes_stepped :
    newNodes ⟨builder, .add action, builder.takeStep kind action⟩ =
      (builder.newNode? kind action).toList := by
  simp [newNodes, Builder.takeStep_nodes]

theorem newEdges_opened : newEdges ⟨builder, operation, builder.openTest action⟩ = [] := by
  simp [newEdges, Builder.openTest_edges]

theorem newEdges_closed : newEdges ⟨builder, .endTest, builder.closeTest⟩ = [] := by
  simp [newEdges, Builder.closeTest_edges]

theorem newEdges_stepped :
    newEdges ⟨builder, .add action, builder.takeStep kind action⟩ =
      (builder.trail.newEdge? (builder.nodeFor kind action)).toList := by
  simp [newEdges, Builder.takeStep_edges]

end Kinds

end Moment

namespace Builder

/-- The moments of a run. -/
def moments (builder : Builder) : List Operation → List Moment
  | [] => []
  | operation :: rest =>
    ⟨builder, operation, builder.attempt operation⟩ :: (builder.attempt operation).moments rest

theorem run_append (builder : Builder) (first second : List Operation) :
    builder.run (first ++ second) = (builder.run first).run second :=
  List.foldl_append

theorem moments_append (builder : Builder) (first second : List Operation) :
    builder.moments (first ++ second) = builder.moments first ++ (builder.run first).moments second := by
  induction first generalizing builder with
  | nil => rfl
  | cons operation rest ih => simp only [List.cons_append, moments, ih, run, List.foldl_cons]

theorem moments_operations (builder : Builder) (operations : List Operation) :
    (builder.moments operations).map Moment.operation = operations := by
  induction operations generalizing builder with
  | nil => rfl
  | cons operation rest ih => simp only [moments, List.map_cons, ih]

/-- A moment of a run is the operation asked there of the builder that the run has led to. -/
theorem moments_eq_append_cons {builder : Builder} {operations : List Operation}
    {earlier later : List Moment} {moment : Moment}
    (split : builder.moments operations = earlier ++ moment :: later) :
    ∃ past future, operations = past ++ moment.operation :: future ∧
      builder.moments past = earlier ∧ builder.run past = moment.before := by
  induction earlier generalizing builder operations with
  | nil =>
    cases operations with
    | nil => simp [moments] at split
    | cons operation rest =>
      simp only [moments, List.nil_append, List.cons.injEq] at split
      obtain ⟨rfl, -⟩ := split
      exact ⟨[], rest, rfl, rfl, rfl⟩
  | cons first earlier ih =>
    cases operations with
    | nil => simp [moments] at split
    | cons operation rest =>
      simp only [moments, List.cons_append, List.cons.injEq] at split
      obtain ⟨rfl, split⟩ := split
      obtain ⟨past, future, rfl, walked, reached⟩ := ih split
      exact ⟨operation :: past, future, rfl, by simp only [moments, walked], reached⟩

/-- A builder before its first operation. -/
def fresh (manualPrefix : String) (reuse : Reuse) : Builder :=
  { manualPrefix, reuse }

theorem start_eq_fresh {settings : Settings} {given : Option String} {builder : Builder}
    (started : start settings given = .ok builder) :
    builder = fresh settings.manualPrefix builder.reuse := by
  unfold start at started
  cases chosen : Reuse.choose settings given with
  | error failure => simp [chosen, Except.map] at started
  | ok reuse =>
    simp only [chosen, Except.map, Except.ok.injEq] at started
    subst started
    rfl

theorem start_running {settings : Settings} {given : Option String} {builder : Builder}
    (started : start settings given = .ok builder) : builder.phase ≠ .finished := by
  rw [start_eq_fresh started]
  simp [fresh]

section Running

variable {builder : Builder} (running : builder.phase ≠ .finished)
include running

theorem whileOpen_running (go : Builder → Builder) : builder.whileOpen go = .ok (go builder) := by
  unfold whileOpen
  split
  · contradiction
  · rfl

theorem perform_opened {operation : Operation} {action : Action}
    (opened : operation.opened? = some action) :
    builder.perform operation = .ok (builder.openTest action) := by
  cases operation with
  | add given =>
    simp only [Operation.opened?, Option.ite_none_right_eq_some, Option.some.injEq] at opened
    obtain ⟨isTest, rfl⟩ := opened
    simp only [perform, add, isTest, startTest, whileOpen_running running]
  | startTest given =>
    cases opened
    simp only [perform, startTest, whileOpen_running running]
  | endTest => cases opened
  | finish => cases opened

theorem perform_endTest : builder.perform .endTest = .ok builder.closeTest :=
  whileOpen_running running _

theorem perform_step {kind : StepKind} {action : Action} (isStep : action.kind = .step kind) :
    builder.perform (.add action) = .ok (builder.takeStep kind action) := by
  simp only [perform, add, isStep, whileOpen_running running]

end Running

theorem attempt_of_perform {builder next : Builder} {operation : Operation}
    (done : builder.perform operation = .ok next) : builder.attempt operation = next := by
  simp only [attempt, done]

end Builder

/-- What an operation does to a builder that is not finished: it opens a test, closes one or takes a
step. -/
inductive Move (builder : Builder) : Operation → Builder → Prop where
  | opened {operation : Operation} {action : Action} (opened : operation.opened? = some action) :
      Move builder operation (builder.openTest action)
  | closed : Move builder .endTest builder.closeTest
  | stepped {kind : StepKind} {action : Action} (isStep : action.kind = .step kind) :
      Move builder (.add action) (builder.takeStep kind action)

namespace Move

variable {builder next : Builder} {operation : Operation}

/-- Every operation short of the end succeeds. -/
theorem of_perform (running : builder.phase ≠ .finished) (unfinished : operation ≠ .finish) :
    ∃ next, builder.perform operation = .ok next ∧ Move builder operation next := by
  cases operation with
  | add action =>
    cases kind : action.kind with
    | testStart =>
      have opened : (Operation.add action).opened? = some action := by simp [Operation.opened?, kind]
      exact ⟨_, Builder.perform_opened running opened, .opened opened⟩
    | step kind' => exact ⟨_, Builder.perform_step running kind, .stepped kind⟩
  | startTest action => exact ⟨_, Builder.perform_opened running rfl, .opened rfl⟩
  | endTest => exact ⟨_, Builder.perform_endTest running, .closed⟩
  | finish => contradiction

theorem running (move : Move builder operation next) (running : builder.phase ≠ .finished) :
    next.phase ≠ .finished := by
  cases move with
  | opened _ => simp [Builder.openTest_phase]
  | closed => exact builder.closeTest_running running
  | stepped _ => exact builder.takeStep_running _ _ running

theorem reuse (move : Move builder operation next) : next.reuse = builder.reuse := by
  cases move with
  | opened _ => exact builder.openTest_reuse _
  | closed => exact builder.closeTest_reuse
  | stepped _ => exact builder.takeStep_reuse _ _

theorem manualPrefix (move : Move builder operation next) : next.manualPrefix = builder.manualPrefix := by
  cases move with
  | opened _ => exact builder.openTest_manualPrefix _
  | closed => exact builder.closeTest_manualPrefix
  | stepped _ => exact builder.takeStep_manualPrefix _ _

theorem nodes_eq (move : Move builder operation next) :
    next.nodes = builder.nodes ++ Moment.newNodes ⟨builder, operation, next⟩ := by
  cases move with
  | opened _ => rw [Moment.newNodes_opened, Builder.openTest_nodes, List.append_nil]
  | closed => rw [Moment.newNodes_closed, Builder.closeTest_nodes, List.append_nil]
  | stepped _ => rw [Moment.newNodes_stepped, Builder.takeStep_nodes]

theorem edges_eq (move : Move builder operation next) :
    next.edges = builder.edges ++ Moment.newEdges ⟨builder, operation, next⟩ := by
  cases move with
  | opened _ => rw [Moment.newEdges_opened, Builder.openTest_edges, List.append_nil]
  | closed => rw [Moment.newEdges_closed, Builder.closeTest_edges, List.append_nil]
  | stepped _ => rw [Moment.newEdges_stepped, Builder.takeStep_edges]

theorem eq_takeStep {kind : StepKind} {action : Action} (move : Move builder (.add action) next)
    (isStep : action.kind = .step kind) : next = builder.takeStep kind action := by
  cases move with
  | opened opened =>
    rw [Operation.opened?_of_kind isStep] at opened
    cases opened
  | stepped sameKind =>
    cases sameKind.symm.trans isStep
    rfl

/-- Only steps declare nodes and add edges. -/
theorem adds_nothing (move : Move builder operation next) (still : operation.isStep = false) :
    Moment.newNodes ⟨builder, operation, next⟩ = [] ∧ Moment.newEdges ⟨builder, operation, next⟩ = [] := by
  cases move with
  | opened _ => exact ⟨Moment.newNodes_opened, Moment.newEdges_opened⟩
  | closed => exact ⟨Moment.newNodes_closed, Moment.newEdges_closed⟩
  | stepped isStep =>
    rw [Operation.isStep_of_kind isStep] at still
    cases still

/-- A step is taken in the region it finds, and the trail of that region stands on its node. -/
theorem step_stays (move : Move builder operation next) (steps : operation.isStep) :
    builder.region = next.region ∧ next.trail.last = Moment.linked? ⟨builder, operation, next⟩ := by
  obtain ⟨action, kind, rfl, isStep⟩ := Operation.exists_of_isStep steps
  rw [move.eq_takeStep isStep, Moment.linked?_stepped isStep, Builder.takeStep_region,
    Builder.takeStep_trail, Trail.goTo_last]
  exact ⟨rfl, rfl⟩

end Move

/-- The moments and the builder of a run that is not finished. -/
inductive History (start : Builder) : List Moment → Builder → Prop where
  | start : History start [] start
  | next {past : List Moment} {builder after : Builder} {operation : Operation}
      (history : History start past builder) (move : Move builder operation after) :
      History start (past ++ [⟨builder, operation, after⟩]) after

namespace History

variable {start builder : Builder} {moments : List Moment}

theorem running (history : History start moments builder) (running : start.phase ≠ .finished) :
    builder.phase ≠ .finished := by
  induction history with
  | start => exact running
  | next _ move ih => exact move.running ih

theorem reuse (history : History start moments builder) : builder.reuse = start.reuse := by
  induction history with
  | start => rfl
  | next _ move ih => rw [move.reuse, ih]

theorem manualPrefix (history : History start moments builder) :
    builder.manualPrefix = start.manualPrefix := by
  induction history with
  | start => rfl
  | next _ move ih => rw [move.manualPrefix, ih]

/-- Each moment of a run is a move from a builder with a history of its own; nothing that is declared
by then is lost. -/
theorem move_of_mem (history : History start moments builder) {moment : Moment}
    (member : moment ∈ moments) :
    (∃ past, History start past moment.before) ∧ Move moment.before moment.operation moment.after ∧
      moment.after.nodes <+: builder.nodes := by
  induction history with
  | start => cases member
  | next history move ih =>
    rcases List.mem_append.mp member with past | last
    · obtain ⟨before, moved, declared⟩ := ih past
      rw [move.nodes_eq]
      exact ⟨before, moved, declared.trans (List.prefix_append _ _)⟩
    · cases List.mem_singleton.mp last
      exact ⟨⟨_, history⟩, move, List.prefix_rfl⟩

/-- The nodes of a builder are the ones its moments declared. -/
theorem nodes_eq (history : History start moments builder) :
    builder.nodes = start.nodes ++ moments.flatMap Moment.newNodes := by
  induction history with
  | start => simp
  | next _ move ih => simp [move.nodes_eq, ih]

/-- The edges of a builder are the ones its moments added. -/
theorem edges_eq (history : History start moments builder) :
    builder.edges = start.edges ++ moments.flatMap Moment.newEdges := by
  induction history with
  | start => simp
  | next _ move ih => simp [move.edges_eq, ih]

/-- A run short of the end has a history, and none of its operations is refused. -/
theorem of_run (running : start.phase ≠ .finished) (operations : List Operation)
    (unfinished : .finish ∉ operations) :
    History start (start.moments operations) (start.run operations) ∧
      operations.foldlM Builder.perform start = .ok (start.run operations) := by
  induction operations using List.reverseRecOn with
  | nil => exact ⟨.start, rfl⟩
  | append_singleton operations operation ih =>
    simp only [List.mem_append, List.mem_singleton, not_or] at unfinished
    obtain ⟨history, performed⟩ := ih unfinished.1
    obtain ⟨next, done, move⟩ := Move.of_perform (history.running running) (Ne.symm unfinished.2)
    have moved : start.run (operations ++ [operation]) = next := by
      rw [Builder.run_append]
      exact Builder.attempt_of_perform done
    rw [Builder.moments_append, moved, List.foldlM_append, performed]
    refine ⟨?_, ?_⟩
    · simpa only [Builder.moments, Builder.attempt_of_perform done] using history.next move
    · simp [bind, Except.bind, done, pure, Except.pure]

/-- The history of a run from the start, given in terms of the settings. -/
theorem of_run_started {settings : Settings} {given : Option String} {operations : List Operation}
    (started : Builder.start settings given = .ok start) (unfinished : .finish ∉ operations) :
    History (.fresh settings.manualPrefix start.reuse) (start.moments operations)
        (start.run operations) ∧
      operations.foldlM Builder.perform start = .ok (start.run operations) := by
  have begun := Builder.start_eq_fresh started
  have run := of_run (Builder.start_running started) operations unfinished
  exact ⟨begun ▸ run.1, run.2⟩

section Fresh

variable {manualPrefix : String} {reuse : Reuse}

/-- The open test is the last one opened. -/
theorem region_number (history : History (.fresh manualPrefix reuse) moments builder) {number : Nat}
    (inside : builder.region = .test number) : number = builder.tests := by
  induction history generalizing number with
  | start => cases inside
  | next _ move ih =>
    cases move with
    | opened _ =>
      rw [Builder.openTest_region, Region.test.injEq] at inside
      rw [Builder.openTest_tests, inside]
    | closed => simp [Builder.closeTest_region] at inside
    | stepped _ =>
      rw [Builder.takeStep_region] at inside
      rw [Builder.takeStep_tests, ih inside]

/-- Tests are numbered from one in the order they are opened. -/
theorem opened_regions (history : History (.fresh manualPrefix reuse) moments builder) :
    (moments.filter (·.operation.opened?.isSome)).map Moment.region =
      (List.range' 1 builder.tests).map Region.test := by
  induction history with
  | start => rfl
  | next _ move ih =>
    cases move with
    | opened opened =>
      rw [Builder.openTest_tests, List.range'_1_concat]
      simp [opened, ih, Moment.region, Builder.openTest_region, Nat.add_comm]
    | closed => simp [ih, Builder.closeTest_tests]
    | stepped isStep => simp [ih, Builder.takeStep_tests, Operation.opened?_of_kind isStep]

theorem opened_length (history : History (.fresh manualPrefix reuse) moments builder) :
    (moments.filterMap (·.operation.opened?)).length = builder.tests := by
  have counted := congrArg List.length history.opened_regions
  simpa [List.length_filterMap_eq_countP, List.countP_eq_length_filter] using counted

/-- Nodes are numbered from one in the order of their declarations. -/
theorem nodes_numbered (history : History (.fresh manualPrefix reuse) moments builder) :
    builder.nodes.map (·.id.number) = List.range' 1 builder.nodes.length := by
  induction history with
  | start => rfl
  | next _ move ih =>
    cases move with
    | opened _ => rw [Builder.openTest_nodes, ih]
    | closed => rw [Builder.closeTest_nodes, ih]
    | @stepped kind action _ =>
      rw [Builder.takeStep_nodes]
      rcases Builder.nodeFor_cases _ kind action with ⟨-, new⟩ | ⟨-, -, new⟩
      · rw [new, Option.toList_some, List.length_append, List.length_singleton, List.range'_1_concat,
          List.map_append, ih]
        simp [Builder.nextId, Nat.add_comm]
      · simp [new, ih]

/-- No two nodes have one name. -/
theorem ids_nodup (history : History (.fresh manualPrefix reuse) moments builder) :
    (builder.nodes.map Node.id).Nodup := by
  apply List.Nodup.of_map NodeId.number
  have numbered := history.nodes_numbered
  rw [List.map_map]
  exact numbered ▸ List.nodup_range'

end Fresh

end History

namespace Builder

variable {builder : Builder}

/-- Nothing changes a finished builder. -/
theorem attempt_finished (done : builder.phase = .finished) (operation : Operation) :
    builder.attempt operation = builder := by
  have refuses (go : Builder → Builder) : builder.whileOpen go = .error .diagramFinished := by
    simp only [whileOpen, done]
  cases operation with
  | add action =>
    cases kind : action.kind <;> simp only [attempt, perform, add, kind, startTest, refuses]
  | startTest action => simp only [attempt, perform, startTest, refuses]
  | endTest => simp only [attempt, perform, endTest, refuses]
  | finish =>
    have closed : builder.closeTest = builder := by simp only [closeTest, done]
    simp only [attempt, perform, finish, closed]
    rw [← done]

theorem run_finished (done : builder.phase = .finished) (operations : List Operation) :
    builder.run operations = builder := by
  induction operations with
  | nil => rfl
  | cons operation rest ih =>
    change (builder.attempt operation).run rest = builder
    rw [attempt_finished done, ih]

/-- A run goes on to the end of its operations, or it is finished on the way and nothing comes of the rest. -/
theorem run_cases (builder : Builder) (operations : List Operation) :
    .finish ∉ operations ∨
      ∃ before after, operations = before ++ .finish :: after ∧ .finish ∉ before ∧
        builder.run operations = (builder.run before).finish := by
  by_cases finishes : .finish ∈ operations
  · obtain ⟨before, after, rfl, unfinished⟩ := List.eq_append_cons_of_mem finishes
    refine .inr ⟨before, after, rfl, unfinished, ?_⟩
    rw [run_append]
    exact run_finished rfl after
  · exact .inl finishes

/-- Finishing leaves what ending the test leaves; only the phase is another one. -/
theorem exists_unfinished (running : builder.phase ≠ .finished) (operations : List Operation) :
    ∃ taken, .finish ∉ taken ∧ (∀ operation ∈ taken, operation ∈ operations ∨ operation = .endTest) ∧
      (builder.run operations = builder.run taken ∨
        (builder.run taken).region = .topLevel ∧
          builder.run operations = { builder.run taken with phase := .finished }) := by
  rcases builder.run_cases operations with unfinished | ⟨before, after, rfl, unfinished, reached⟩
  · exact ⟨operations, unfinished, fun _ => .inl, .inl rfl⟩
  · obtain ⟨history, -⟩ := History.of_run running before unfinished
    have closed : builder.run (before ++ [.endTest]) = (builder.run before).closeTest := by
      rw [run_append]
      exact attempt_of_perform (perform_endTest (history.running running))
    refine ⟨before ++ [.endTest], by simp [unfinished], ?_, .inr ⟨?_, ?_⟩⟩
    · intro operation member
      rcases List.mem_append.mp member with early | last
      · exact .inl (List.mem_append_left _ early)
      · exact .inr (List.mem_singleton.mp last)
    · rw [closed, closeTest_region]
    · rw [reached, closed]
      rfl

/-- Whatever a run consists of, its lines are those of a run that is not finished. -/
theorem exists_unfinished_run (running : builder.phase ≠ .finished) (operations : List Operation) :
    ∃ taken, .finish ∉ taken ∧ (builder.run operations).lines = (builder.run taken).lines := by
  obtain ⟨taken, unfinished, -, same | ⟨-, same⟩⟩ := exists_unfinished running operations
  · exact ⟨taken, unfinished, by rw [same]⟩
  · exact ⟨taken, unfinished, by rw [same]⟩

end Builder

/-! ## A run to try the results on -/

/-- A visit whose address holds much of what lines are made of. -/
def sampleVisit : Action := { kind := .step .navigate, target := "/a\"b\nend --> C1" }

def sampleClick : Action := { kind := .step .click, target := "#order" }

def sampleTest : Action := { kind := .testStart, target := "order", isManual := true }

/-- A visit before a test, three steps in the test that come back to where they began, and the visit once
more behind the test. -/
def sampleRun : List Operation :=
  [.add sampleVisit, .startTest sampleTest, .add sampleVisit, .add sampleClick, .add sampleVisit,
    .endTest, .add sampleVisit]

/-- A fresh builder under the default settings. -/
def sampleBuilder : Builder :=
  .fresh "Manual test - " .withinTest

theorem sample_started : Builder.start {} none = .ok sampleBuilder := rfl

theorem sample_unfinished : .finish ∉ sampleRun := by decide

end TestFlow.Diagram

import TestFlow.Proofs.Diagram.ReadBack

/-! # The life of a builder

A builder is outside of tests or in one until it is finished, and from then on it stays as it is. Its lines
only grow, and they tell where it stands: read from the beginning, they lead into a test that is not closed
exactly while the builder is in one. An operation written out as a program checks at several places whether
the builder is finished; none of these checks refuses after something has been changed.
-/

namespace TestFlow.Diagram

/-! ## Operations as programs -/

/-- A program on a builder. If it is refused, what it has changed until then stays changed. -/
abbrev Program := EStateM Failure Builder

namespace Program

/-- Refuse to go on with a finished builder. -/
def checkOpen : Program Unit := do
  if (← get).phase = .finished then
    throw .diagramFinished

def endTest : Program Unit := do
  checkOpen
  if (← get).isInTest then
    modify (·.write [.testEnd])
    modify ({ · with phase := .outside })
    modify Builder.endSharing

def startTest (action : Action) : Program Unit := do
  checkOpen
  if (← get).isInTest then
    modify (·.note .testInsideTest)
    endTest
  let number := (← get).tests + 1
  let label := testLabel (← get).manualPrefix action
  modify Builder.endSharing
  modify (·.write [.testStart number (escapeLabel label)])
  modify ({ · with phase := .inTest number {} })
  modify (·.note (.testOpened number label))

def add (action : Action) : Program Unit := do
  checkOpen
  match action.kind with
  | .testStart => startTest action
  | .step kind => modify (·.takeStep kind action)

/-- Finishing answers with the text of the diagram. -/
def finish : Program String := do
  if (← get).isInTest then
    endTest
  modify ({ · with phase := .finished })
  return (← get).text

section Runs

variable {builder : Builder}

theorem run_checkOpen_running (running : builder.phase ≠ .finished) :
    checkOpen.run builder = .ok () builder := by
  simp [checkOpen, running]

theorem run_checkOpen_finished (done : builder.phase = .finished) :
    checkOpen.run builder = .error .diagramFinished builder := by
  simp [checkOpen, done]

theorem run_endTest (running : builder.phase ≠ .finished) :
    endTest.run builder = .ok () builder.closeTest := by
  rw [endTest, EStateM.run_bind, run_checkOpen_running running]
  cases phase : builder.phase with
  | finished => contradiction
  | _ => simp [Builder.isInTest, Builder.closeTest, phase]

theorem run_startTest (running : builder.phase ≠ .finished) (action : Action) :
    (startTest action).run builder = .ok () (builder.openTest action) := by
  have noted : (builder.note .testInsideTest).phase ≠ .finished := running
  have prefixed : (builder.note .testInsideTest).closeTest.manualPrefix = builder.manualPrefix :=
    Builder.closeTest_manualPrefix _
  rw [startTest, EStateM.run_bind, run_checkOpen_running running]
  cases inTest : builder.isInTest with
  | true => simp [inTest, run_endTest noted, prefixed, Builder.openTest, Builder.closeOuterTest]
  | false => simp [inTest, Builder.openTest, Builder.closeOuterTest]

/-- Finishing is never refused. -/
theorem run_finish (builder : Builder) : finish.run builder = .ok builder.finish.text builder.finish := by
  cases inTest : builder.isInTest with
  | true =>
    have running : builder.phase ≠ .finished := by
      intro done
      simp [Builder.isInTest, done] at inTest
    simp [finish, inTest, run_endTest running, Builder.finish, -bind_pure_comp]
  | false =>
    have closed : builder.closeTest = builder := by
      rw [Builder.closeTest_eq, inTest]
      rfl
    simp [finish, inTest, closed, Builder.finish, -bind_pure_comp]

end Runs

end Program

/-- An operation as a program. -/
def Operation.program : Operation → Program Unit
  | .add action => Program.add action
  | .startTest action => Program.startTest action
  | .endTest => Program.endTest
  | .finish => do let _ ← Program.finish

namespace Operation

variable {builder : Builder} {operation : Operation}

/-- Short of the end of a builder no operation is refused. -/
theorem run_program_running (running : builder.phase ≠ .finished) (operation : Operation) :
    operation.program.run builder = .ok () (builder.attempt operation) := by
  cases operation with
  | add action =>
    cases kind : action.kind with
    | testStart =>
      have opened : (Operation.add action).opened? = some action := by simp [opened?, kind]
      rw [Builder.attempt_of_perform (Builder.perform_opened running opened)]
      simp [program, Program.add, Program.run_checkOpen_running running, kind, Program.run_startTest running]
    | step kind' =>
      rw [Builder.attempt_of_perform (Builder.perform_step running kind)]
      simp [program, Program.add, Program.run_checkOpen_running running, kind]
  | startTest action =>
    rw [Builder.attempt_of_perform (Builder.perform_opened running rfl)]
    exact Program.run_startTest running action
  | endTest =>
    rw [Builder.attempt_of_perform (Builder.perform_endTest running)]
    exact Program.run_endTest running
  | finish =>
    rw [program, EStateM.run_bind, Program.run_finish]
    rfl

/-- A finished builder refuses all but to be finished again, and is left as it was. -/
theorem run_program_finished (done : builder.phase = .finished) (further : operation ≠ .finish) :
    operation.program.run builder = .error .diagramFinished builder := by
  have refused := Program.run_checkOpen_finished done
  cases operation with
  | add action => simp [program, Program.add, refused]
  | startTest action => simp [program, Program.startTest, refused]
  | endTest => simp [program, Program.endTest, refused]
  | finish => contradiction

end Operation

/-! ## Lines only grow -/

theorem Move.lines_grow {builder next : Builder} {operation : Operation}
    (move : Move builder operation next) : builder.lines <+: next.lines := by
  cases move with
  | opened _ =>
    rw [Builder.openTest_lines, Builder.closeTest_lines, List.append_assoc]
    exact List.prefix_append _ _
  | closed =>
    rw [Builder.closeTest_lines]
    exact List.prefix_append _ _
  | stepped _ =>
    rw [Builder.takeStep_lines]
    exact List.prefix_append _ _

namespace Builder

theorem attempt_lines_grow (builder : Builder) (operation : Operation) :
    builder.lines <+: (builder.attempt operation).lines := by
  by_cases done : builder.phase = .finished
  · simp only [attempt_finished done, List.prefix_rfl]
  · by_cases finishes : operation = .finish
    · have closes : (builder.attempt operation).lines = builder.closeTest.lines := by
        rw [finishes]
        rfl
      rw [closes, closeTest_lines]
      exact List.prefix_append _ _
    · obtain ⟨next, performed, move⟩ := Move.of_perform done finishes
      rw [attempt_of_perform performed]
      exact move.lines_grow

theorem run_lines_grow (builder : Builder) (operations : List Operation) :
    builder.lines <+: (builder.run operations).lines := by
  induction operations generalizing builder with
  | nil => exact List.prefix_rfl
  | cons operation rest ih => exact (builder.attempt_lines_grow operation).trans (ih _)

end Builder

/-! ## Lines tell of the open test -/

/-- The open test that a region counts for. -/
def Region.openTests (region : Region) : Nat :=
  if region.isTest then 1 else 0

theorem Outline.balanced_readLine? {line : Line} {region next : Region} {outline result : Outline}
    (read : readLine? (region, outline) line = some (next, result)) :
    [line].countP (·.shape? = some .opening) + region.openTests =
      [line].countP (·.shape? = some .closing) + next.openTests := by
  cases line with
  | theme => cases region <;> cases read
  | direction => cases region <;> cases read
  | testStart number label =>
    cases region with
    | topLevel =>
      cases read
      rfl
    | test outer => cases read
  | testEnd =>
    cases region with
    | topLevel => cases read
    | test number =>
      cases read
      rfl
  | node inTest node =>
    cases region <;> simp only [readLine?, Option.ite_none_right_eq_some, Option.some.injEq,
      Prod.mk.injEq] at read <;> obtain ⟨-, rfl, -⟩ := read <;> rfl
  | edge inTest edge =>
    cases region <;> simp only [readLine?, Option.ite_none_right_eq_some, Option.some.injEq,
      Prod.mk.injEq] at read <;> obtain ⟨-, rfl, -⟩ := read <;> rfl

/-- Lines that lead from one region to another open and close tests accordingly. -/
theorem Outline.balanced_foldlM {lines : List Line} {region next : Region} {outline result : Outline}
    (read : lines.foldlM readLine? (region, outline) = some (next, result)) :
    lines.countP (·.shape? = some .opening) + region.openTests =
      lines.countP (·.shape? = some .closing) + next.openTests := by
  induction lines generalizing region outline with
  | nil =>
    cases read
    rfl
  | cons line rest ih =>
    rw [List.foldlM_cons] at read
    obtain ⟨⟨middle, between⟩, first, later⟩ := Option.bind_eq_some_iff.mp read
    have head := balanced_readLine? first
    have tail := ih later
    rw [← List.singleton_append, List.countP_append, List.countP_append]
    omega

/-- The headers have none of the four shapes. -/
theorem countP_fits_lines {body : List Line} (legible : ∀ line ∈ body, line.Legible) (shape : Shape) :
    ((Line.theme :: .direction :: body).map Line.text).countP (shape.Fits ·) =
      body.countP (·.shape? = some shape) := by
  have misfit {header : Line} (member : header ∈ [Line.theme, .direction]) :
      ¬ shape.Fits header.text := by
    simp [Shape.fits_iff, (header_unread member).2]
  rw [List.map_cons, List.map_cons, List.countP_cons_of_neg (by simpa using misfit (by simp)),
    List.countP_cons_of_neg (by simpa using misfit (by simp)), countP_fits legible]

/-- A builder whose lines tell whether a test is open. -/
structure Builder.Bracketed (builder : Builder) : Prop where
  balanced : (builder.lines.map Line.text).countP (Shape.opening.Fits ·) =
    (builder.lines.map Line.text).countP (Shape.closing.Fits ·) + if builder.isInTest then 1 else 0
  read : ∃ body region outline, builder.lines = .theme :: .direction :: body ∧
    body.foldlM Outline.readLine? (.topLevel, {}) = some (region, outline) ∧
    region.isTest = builder.isInTest

theorem Builder.Bracketed.finished {builder : Builder} (bracketed : builder.Bracketed)
    (outside : builder.region = .topLevel) : Bracketed { builder with phase := .finished } := by
  have closed : builder.isInTest = false := by
    rw [builder.isInTest_eq, outside]
    rfl
  obtain ⟨balanced, read⟩ := bracketed
  rw [closed] at balanced read
  exact ⟨balanced, read⟩

namespace History

variable {manualPrefix : String} {reuse : Reuse} {moments : List Moment} {builder : Builder}

theorem bracketed (history : History (.fresh manualPrefix reuse) moments builder) : builder.Bracketed := by
  obtain ⟨body, readable⟩ := history.readable
  constructor
  · have balanced := Outline.balanced_foldlM readable.read
    rw [readable.lines, countP_fits_lines readable.legible, countP_fits_lines readable.legible,
      builder.isInTest_eq]
    exact balanced
  · exact ⟨body, builder.region, _, readable.lines, readable.read, builder.isInTest_eq.symm⟩

end History

/-- Whatever a builder is asked for, its lines open one test more than they close while it is in a test, and
as many else. Before it is finished nothing is refused. Once it is finished all but finishing is refused and
leaves it as it was, and finishing answers with the same text again. What is written stays in place. -/
theorem builder_lives_once {settings : Settings} {given : Option String} {builder : Builder}
    (started : Builder.start settings given = .ok builder) (operations : List Operation) :
    (builder.run operations).Bracketed ∧
      (.finish ∉ operations → ∀ operation : Operation,
        operation.program.run (builder.run operations) =
          .ok () (builder.run (operations ++ [operation]))) ∧
      Program.finish.run (builder.run operations) =
        .ok (builder.run (operations ++ [.finish])).text (builder.run (operations ++ [.finish])) ∧
      (.finish ∈ operations →
        (∀ operation : Operation, operation ≠ .finish →
          operation.program.run (builder.run operations) =
            .error .diagramFinished (builder.run operations)) ∧
        ∀ more, Program.finish.run (builder.run (operations ++ more)) =
          .ok (builder.run operations).text (builder.run operations)) ∧
      ∀ more, (builder.run operations).lines <+: (builder.run (operations ++ more)).lines ∧
        (builder.run operations).nodes <+: (builder.run (operations ++ more)).nodes ∧
        (builder.run operations).edges <+: (builder.run (operations ++ more)).edges := by
  have running := Builder.start_running started
  refine ⟨?_, ?_, ?_, ?_, ?_⟩
  · obtain ⟨taken, unfinished, -, reached⟩ := Builder.exists_unfinished running operations
    obtain ⟨history, -⟩ := History.of_run_started started unfinished
    rcases reached with same | ⟨outside, same⟩
    · exact same ▸ history.bracketed
    · exact same ▸ history.bracketed.finished outside
  · intro unfinished operation
    obtain ⟨history, -⟩ := History.of_run running operations unfinished
    rw [Builder.run_append]
    exact Operation.run_program_running (history.running running) operation
  · rw [Builder.run_append]
    exact Program.run_finish _
  · intro finished
    have done : (builder.run operations).phase = .finished := by
      rcases builder.run_cases operations with unfinished | ⟨before, after, -, -, reached⟩
      · contradiction
      · rw [reached]
        rfl
    refine ⟨fun operation => Operation.run_program_finished done, fun more => ?_⟩
    have again : (builder.run operations).finish = builder.run operations :=
      Builder.attempt_finished done .finish
    rw [Builder.run_append, Builder.run_finished done, Program.run_finish, again]
  · intro more
    rw [Builder.run_append]
    have grown := (builder.run operations).run_lines_grow more
    exact ⟨grown, grown.filterMap Line.node?, grown.filterMap Line.edge?⟩

/-- In the middle of the sample run a test is open; after it, a step is refused and nothing is lost. -/
theorem life_of_sample :
    Builder.start {} none = .ok sampleBuilder ∧ .finish ∉ sampleRun.take 4 ∧
      .finish ∈ sampleRun ++ [.finish] ∧ (sampleBuilder.run (sampleRun.take 4)).Bracketed ∧
      (sampleBuilder.run (sampleRun.take 4)).isInTest = true ∧
      Operation.endTest.program.run (sampleBuilder.run (sampleRun.take 4)) =
        .ok () (sampleBuilder.run (sampleRun.take 4 ++ [.endTest])) ∧
      (Operation.add sampleClick).program.run (sampleBuilder.run (sampleRun ++ [.finish])) =
        .error .diagramFinished (sampleBuilder.run (sampleRun ++ [.finish])) := by
  have unfinished : .finish ∉ sampleRun.take 4 := by decide
  have finished : .finish ∈ sampleRun ++ [.finish] := by decide
  obtain ⟨bracketed, proceeds, -⟩ := builder_lives_once sample_started (sampleRun.take 4)
  obtain ⟨-, -, -, refuses, -⟩ := builder_lives_once sample_started (sampleRun ++ [.finish])
  exact ⟨sample_started, unfinished, finished, bracketed, by decide, proceeds unfinished _,
    (refuses finished).1 _ (by decide)⟩

end TestFlow.Diagram

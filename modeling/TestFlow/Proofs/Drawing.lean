import TestFlow.Flow
import TestFlow.Proofs.Diagram.Run

/-! # Drawing a tree is a run of a builder

The events of a tree ask a builder for operations: a call that is an action is added, and leaving a test
declaration ends the test. The notes made on the way have no part in the drawing, so that the diagram of a
tree is the one that a run of these operations builds.
-/

namespace TestFlow

open Syntax Diagram

namespace Diagram.Builder

variable {builder other : Builder}

theorem silenced_closeTest (same : builder.silenced = other.silenced) :
    builder.closeTest.silenced = other.closeTest.silenced := by
  have closed (builder : Builder) : builder.closeTest.silenced = builder.silenced.closeTest := by
    rcases builder with ⟨_, _ | _, _ | _ | _, _, _, _, _⟩ <;> rfl
  rw [closed, closed, same]

theorem silenced_openTest (same : builder.silenced = other.silenced) (action : Action) :
    (builder.openTest action).silenced = (other.openTest action).silenced := by
  have opened (builder : Builder) :
      (builder.openTest action).silenced = (builder.silenced.openTest action).silenced := by
    rw [openTest_eq, openTest_eq, closeTest_lines, closeTest_lines]
    rfl
  rw [opened, opened other, same]

theorem silenced_takeStep (same : builder.silenced = other.silenced) (kind : StepKind) (action : Action) :
    (builder.takeStep kind action).silenced = (other.takeStep kind action).silenced := by
  have stepped (builder : Builder) :
      (builder.takeStep kind action).silenced = (builder.silenced.takeStep kind action).silenced := by
    rw [takeStep_eq, takeStep_eq]
    rcases builder with ⟨_, _, _ | _ | _, _, _, _, _⟩ <;> rfl
  rw [stepped, stepped other, same]

theorem silenced_attempt (same : builder.silenced = other.silenced) (running : builder.phase ≠ .finished)
    {operation : Operation} (unfinished : operation ≠ .finish) :
    (builder.attempt operation).silenced = (other.attempt operation).silenced := by
  have samePhase : builder.phase = other.phase := by
    have := congrArg phase same
    exact this
  obtain ⟨next, done, move⟩ := Move.of_perform running unfinished
  rw [attempt_of_perform done]
  cases move with
  | opened opened =>
    rw [attempt_of_perform (perform_opened (samePhase ▸ running) opened)]
    exact silenced_openTest same _
  | closed =>
    rw [attempt_of_perform (perform_endTest (samePhase ▸ running))]
    exact silenced_closeTest same
  | stepped isStep =>
    rw [attempt_of_perform (perform_step (samePhase ▸ running) isStep)]
    exact silenced_takeStep same _ _

theorem finish_silenced (builder : Builder) : builder.finish.lines = builder.silenced.finish.lines := by
  rcases builder with ⟨_, _ | _, _ | _ | _, _, _, _, _⟩ <;> rfl

end Diagram.Builder

/-- What an event asks a builder for. -/
def request? (settings : Settings) : Event → Option Operation
  | .leave _ => some .endTest
  | .enter call => (classify settings call).action?.map .add

/-- What the events of a tree ask a builder for, in order. -/
def requests (settings : Settings) (root : Syntax.Node) : List Operation :=
  (testEvents settings root).filterMap (request? settings)

section

variable (settings : Settings)

theorem request?_ne_finish {event : Event} {operation : Operation}
    (asked : request? settings event = some operation) : operation ≠ .finish := by
  cases event with
  | leave call =>
    cases asked
    simp
  | enter call =>
    obtain ⟨action, -, rfl⟩ := Option.map_eq_some_iff.mp asked
    simp

theorem finish_not_mem_requests (root : Syntax.Node) : .finish ∉ requests settings root := by
  intro member
  obtain ⟨event, -, asked⟩ := List.mem_filterMap.mp member
  exact request?_ne_finish settings asked rfl

theorem enter_of_request {event : Event} {action : Action}
    (asked : request? settings event = some (.add action)) :
    ∃ call, event = .enter call ∧ classify settings call = .action action := by
  cases event with
  | leave call => cases asked
  | enter call =>
    obtain ⟨found, read, same⟩ := Option.map_eq_some_iff.mp asked
    obtain rfl := Operation.add.inj same
    refine ⟨call, rfl, ?_⟩
    cases reading : classify settings call <;> simp_all [Reading.action?]

theorem drawEvent_of_request {event : Event} {operation : Operation}
    (asked : request? settings event = some operation) (builder : Builder) :
    drawEvent settings builder event = builder.perform operation := by
  cases event with
  | leave call =>
    cases asked
    rfl
  | enter call =>
    obtain ⟨action, -, rfl⟩ := Option.map_eq_some_iff.mp asked
    obtain ⟨call, same, reading⟩ := enter_of_request settings asked
    cases same
    simp only [drawEvent, reading, Builder.perform]

/-- An event that asks for nothing leaves a note at most. -/
theorem drawEvent_of_silent {event : Event} (silent : request? settings event = none) (builder : Builder) :
    ∃ next, drawEvent settings builder event = .ok next ∧ next.silenced = builder.silenced := by
  cases event with
  | leave call => cases silent
  | enter call =>
    cases reading : classify settings call with
    | action found => simp [request?, reading, Reading.action?] at silent
    | unfinishedAssertion text =>
      exact ⟨builder.note (.assertionDropped text), by simp only [drawEvent, reading], rfl⟩
    | unrelated => exact ⟨builder, by simp only [drawEvent, reading], rfl⟩

/-- An event has the effect of the operation that it asks for; one that asks for none leaves a note at
most. -/
theorem drawEvent_eq {builder other : Builder} (same : builder.silenced = other.silenced)
    (running : builder.phase ≠ .finished) (event : Event) :
    ∃ next, drawEvent settings builder event = .ok next ∧ next.phase ≠ .finished ∧
      next.silenced = (other.run (request? settings event).toList).silenced := by
  cases asked : request? settings event with
  | some operation =>
    have unfinished := request?_ne_finish settings asked
    obtain ⟨next, done, move⟩ := Move.of_perform running unfinished
    have effect := Builder.silenced_attempt same running unfinished
    rw [Builder.attempt_of_perform done] at effect
    exact ⟨next, (drawEvent_of_request settings asked builder).trans done, move.running running, effect⟩
  | none =>
    obtain ⟨next, drawn, still⟩ := drawEvent_of_silent settings asked builder
    have samePhase : next.silenced.phase = builder.silenced.phase := congrArg Builder.phase still
    exact ⟨next, drawn, fun done => running (samePhase.symm.trans done), still.trans same⟩

/-- Events draw what a run of the operations that they ask for draws. -/
theorem foldlM_drawEvent {builder other : Builder} (same : builder.silenced = other.silenced)
    (running : builder.phase ≠ .finished) (events : List Event) :
    ∃ drawn, events.foldlM (drawEvent settings) builder = .ok drawn ∧
      drawn.silenced = (other.run (events.filterMap (request? settings))).silenced := by
  induction events generalizing builder other with
  | nil => exact ⟨builder, rfl, same⟩
  | cons event rest ih =>
    obtain ⟨next, drawn, stillRunning, effect⟩ := drawEvent_eq settings same running event
    obtain ⟨last, drawnRest, reached⟩ := ih effect stillRunning
    refine ⟨last, ?_, ?_⟩
    · rw [List.foldlM_cons, drawn]
      exact drawnRest
    · rw [reached, ← Builder.run_append]
      cases asked : request? settings event <;> simp [asked]

end

/-- The diagram of an accepted tree is what the run of its requests builds. -/
theorem flowOfTree_eq_run {settings : Settings} {given : Option String} {language : String}
    {root : Syntax.Node} {builder : Builder} (accepted : acceptTree language root = .ok root)
    (started : Builder.start settings given = .ok builder) :
    ∃ graph, flowOfTree settings given language root = .ok graph ∧
      graph.text = (builder.run (requests settings root)).finish.text ∧
      graph.nodes = (builder.run (requests settings root)).finish.nodes.length ∧
      graph.edges = (builder.run (requests settings root)).finish.edges.length ∧
      graph.tests = (builder.run (requests settings root)).finish.tests := by
  obtain ⟨drawn, folded, reached⟩ :=
    foldlM_drawEvent settings rfl (Builder.start_running started) (testEvents settings root)
  have lines : drawn.finish.lines = (builder.run (requests settings root)).finish.lines := by
    rw [Builder.finish_silenced, reached, ← Builder.finish_silenced, requests]
  refine ⟨.ofBuilder drawn.finish, ?_, ?_, ?_, ?_, ?_⟩
  · simp only [flowOfTree, accepted, draw, started, folded, bind, Except.bind, pure, Except.pure]
  · simp only [Graph.ofBuilder, Builder.text, lines]
  · simp only [Graph.ofBuilder, Builder.nodes, lines]
  · simp only [Graph.ofBuilder, Builder.edges, lines]
  · simp only [Graph.ofBuilder, Builder.tests, lines]

end TestFlow

import TestFlow.Diagram.Builder

/-! # What one operation does to a diagram

Closing the open test, opening a test and taking a step have one equation each, which says all that
becomes of the builder, its journal apart. The effects on lines, region, trails and shared nodes are
read off these equations; later modules cite the effects and do not unfold the builder again.
-/

namespace TestFlow.Diagram

/-- A region of a diagram: the top level, or the test of a number. -/
inductive Region where
  | topLevel
  | test (number : Nat)
deriving DecidableEq, Repr, Inhabited

def Region.isTest : Region → Bool
  | .topLevel => false
  | .test _ => true

/-- The key of a step of a kind. -/
def stepKey (kind : StepKind) (action : Action) : StepKey :=
  ⟨kind, action.target, action.value⟩

@[simp] theorem stepKey_kind (kind : StepKind) (action : Action) : (stepKey kind action).kind = kind := rfl

theorem key?_eq_stepKey {kind : StepKind} {action : Action} (isStep : action.kind = .step kind) :
    action.key? = some (stepKey kind action) := by
  simp only [Action.key?, isStep, stepKey]

@[simp] theorem Trail.goTo_last (trail : Trail) (id : NodeId) : (trail.goTo id).last = some id := rfl

@[simp] theorem Trail.goTo_edges (trail : Trail) (id : NodeId) :
    (trail.goTo id).edges = trail.edges ++ (trail.newEdge? id).toList := rfl

namespace Builder

variable (builder : Builder) (kind : StepKind) (action : Action) (id : NodeId)

/-- The region a builder draws in. -/
def region : Region :=
  match builder.phase with
  | .inTest number _ => .test number
  | _ => .topLevel

theorem isInTest_eq : builder.isInTest = builder.region.isTest := by
  cases phase : builder.phase <;> simp only [isInTest, region, phase, Region.isTest]

theorem trail_of_topLevel (outside : builder.region = .topLevel) : builder.trail = builder.topLevel := by
  cases phase : builder.phase <;> simp_all only [trail, region, reduceCtorEq]

/-- A builder without its journal, which tells of the drawing but has no part in it. -/
def silenced : Builder :=
  { builder with journal := [] }

/-- The nodes still shared in the next test or after the open one. -/
def sharedBeyond : List (StepKey × NodeId) :=
  match builder.reuse with
  | .withinTest => []
  | .acrossRun => builder.shared

theorem endSharing_eq : builder.endSharing = { builder with shared := builder.sharedBeyond } := by
  rcases builder with ⟨_, _ | _, _, _, _, _, _⟩ <;> rfl

/-! ## Going on to a node -/

@[simp] theorem setTrail_trail (trail : Trail) : (builder.setTrail trail).trail = trail := by
  cases phase : builder.phase <;> simp only [setTrail, phase, Builder.trail]

@[simp] theorem setTrail_region (trail : Trail) : (builder.setTrail trail).region = builder.region := by
  cases phase : builder.phase <;> simp only [setTrail, region, phase]

@[simp] theorem setTrail_reuse (trail : Trail) : (builder.setTrail trail).reuse = builder.reuse := by
  cases phase : builder.phase <;> simp only [setTrail, phase]

@[simp] theorem setTrail_manualPrefix (trail : Trail) :
    (builder.setTrail trail).manualPrefix = builder.manualPrefix := by
  cases phase : builder.phase <;> simp only [setTrail, phase]

theorem setTrail_topLevel (trail : Trail) :
    (builder.setTrail trail).topLevel =
      if builder.region = .topLevel then trail else builder.topLevel := by
  cases phase : builder.phase <;> simp [setTrail, region, phase]

theorem setTrail_finished (trail : Trail) :
    (builder.setTrail trail).phase = .finished ↔ builder.phase = .finished := by
  cases phase : builder.phase <;> simp [setTrail, phase]

/-- The node that a step is linked to: the one its key shares, if it may share one and there is one,
and else the next one. -/
def nodeFor : NodeId :=
  if needsOwnNode kind action then builder.nextId kind
  else (builder.sharedNode? (stepKey kind action)).getD (builder.nextId kind)

/-- The node that a step declares. -/
def newNode? : Option Node :=
  if needsOwnNode kind action || (builder.sharedNode? (stepKey kind action)).isNone then
    some ⟨builder.nextId kind, stepLabel (stepKey kind action)⟩
  else none

/-- The shared nodes once a step is taken. -/
def sharedAfter : List (StepKey × NodeId) :=
  if needsOwnNode kind action || (builder.sharedNode? (stepKey kind action)).isSome then builder.shared
  else (stepKey kind action, builder.nextId kind) :: builder.shared

theorem nodeFor_cases :
    builder.nodeFor kind action = builder.nextId kind ∧
        builder.newNode? kind action = some ⟨builder.nextId kind, stepLabel (stepKey kind action)⟩ ∨
      needsOwnNode kind action = false ∧
        builder.sharedNode? (stepKey kind action) = some (builder.nodeFor kind action) ∧
        builder.newNode? kind action = none := by
  cases own : needsOwnNode kind action <;>
    cases found : builder.sharedNode? (stepKey kind action) <;> simp [nodeFor, newNode?, own, found]

/-- The lines that a step adds. -/
def stepLines : List Line :=
  (builder.newNode? kind action).toList.map (.node builder.isInTest) ++
    (builder.trail.newEdge? (builder.nodeFor kind action)).toList.map (.edge builder.isInTest)

/-! ## The three equations -/

theorem closeTest_eq :
    builder.closeTest =
      if builder.isInTest then
        { builder with
          phase := .outside
          lines := builder.lines ++ [.testEnd]
          shared := builder.sharedBeyond }
      else builder := by
  cases phase : builder.phase <;>
    simp [closeTest, endSharing_eq, sharedBeyond, write, isInTest, phase]

theorem openTest_eq :
    (builder.openTest action).silenced =
      { builder.silenced with
        phase := .inTest (builder.tests + 1) {}
        lines := builder.closeTest.lines ++
          [.testStart (builder.tests + 1) (escapeLabel (testLabel builder.manualPrefix action))]
        shared := builder.sharedBeyond } := by
  cases phase : builder.phase <;> cases reuse : builder.reuse <;>
    simp [openTest, closeOuterTest, closeTest_eq, endSharing_eq, sharedBeyond, silenced, note, write,
      isInTest, tests, phase, reuse, Line.isTestStart]

theorem goTo_eq :
    builder.goTo id =
      { builder.setTrail (builder.trail.goTo id) with
        lines := builder.lines ++ (builder.trail.newEdge? id).toList.map (.edge builder.isInTest) } := by
  cases phase : builder.phase <;> simp [goTo, setTrail, write, phase]

theorem takeStep_eq :
    (builder.takeStep kind action).silenced =
      { (builder.setTrail (builder.trail.goTo (builder.nodeFor kind action))).silenced with
        lines := builder.lines ++ builder.stepLines kind action
        shared := builder.sharedAfter kind action } := by
  change (if needsOwnNode kind action then builder.takeFresh (stepKey kind action)
    else builder.takeShared (stepKey kind action)).silenced = _
  cases own : needsOwnNode kind action with
  | true =>
    cases phase : builder.phase <;>
      simp [takeFresh, goTo_eq, declare, write, note, silenced, stepLines, nodeFor, newNode?, sharedAfter,
        setTrail, trail, isInTest, own, phase]
  | false =>
    cases found : builder.sharedNode? (stepKey kind action) <;>
    cases phase : builder.phase <;>
      simp [takeShared, goTo_eq, declare, share, write, note, silenced, stepLines, nodeFor, newNode?,
        sharedAfter, setTrail, trail, isInTest, own, found, phase]

/-! ## Effects of closing -/

theorem closeTest_lines :
    builder.closeTest.lines = builder.lines ++ if builder.isInTest then [.testEnd] else [] := by
  rw [closeTest_eq]
  split <;> simp

/-- Closing declares no node and draws no edge. -/
theorem closing_plain {line : Line} (member : line ∈ if builder.isInTest then [Line.testEnd] else []) :
    line.node? = none ∧ line.edge? = none := by
  split at member
  · rw [List.mem_singleton.mp member]
    exact ⟨rfl, rfl⟩
  · cases member

theorem closeTest_region : builder.closeTest.region = .topLevel := by
  cases phase : builder.phase <;> simp [closeTest_eq, region, isInTest, phase]

theorem closeTest_topLevel : builder.closeTest.topLevel = builder.topLevel := by
  rw [closeTest_eq]
  split <;> rfl

theorem closeTest_shared :
    builder.closeTest.shared = if builder.isInTest then builder.sharedBeyond else builder.shared := by
  rw [closeTest_eq]
  split <;> rfl

theorem closeTest_reuse : builder.closeTest.reuse = builder.reuse := by
  rw [closeTest_eq]
  split <;> rfl

theorem closeTest_manualPrefix : builder.closeTest.manualPrefix = builder.manualPrefix := by
  rw [closeTest_eq]
  split <;> rfl

theorem closeTest_running (running : builder.phase ≠ .finished) : builder.closeTest.phase ≠ .finished := by
  rw [closeTest_eq]
  split
  · simp
  · exact running

/-! ## Effects of opening -/

theorem openTest_lines :
    (builder.openTest action).lines = builder.closeTest.lines ++
      [.testStart (builder.tests + 1) (escapeLabel (testLabel builder.manualPrefix action))] := by
  have same := congrArg lines (builder.openTest_eq action)
  exact same

theorem openTest_phase : (builder.openTest action).phase = .inTest (builder.tests + 1) {} := by
  have same := congrArg phase (builder.openTest_eq action)
  exact same

theorem openTest_region : (builder.openTest action).region = .test (builder.tests + 1) := by
  simp only [region, openTest_phase]

theorem openTest_trail : (builder.openTest action).trail = {} := by
  simp only [trail, openTest_phase]

theorem openTest_topLevel : (builder.openTest action).topLevel = builder.topLevel := by
  have same := congrArg topLevel (builder.openTest_eq action)
  exact same

theorem openTest_shared : (builder.openTest action).shared = builder.sharedBeyond := by
  have same := congrArg shared (builder.openTest_eq action)
  exact same

theorem openTest_reuse : (builder.openTest action).reuse = builder.reuse := by
  have same := congrArg reuse (builder.openTest_eq action)
  exact same

theorem openTest_manualPrefix : (builder.openTest action).manualPrefix = builder.manualPrefix := by
  have same := congrArg manualPrefix (builder.openTest_eq action)
  exact same

/-! ## Effects of a step -/

theorem takeStep_lines :
    (builder.takeStep kind action).lines = builder.lines ++ builder.stepLines kind action := by
  have same := congrArg lines (builder.takeStep_eq kind action)
  exact same

theorem takeStep_phase :
    (builder.takeStep kind action).phase =
      (builder.setTrail (builder.trail.goTo (builder.nodeFor kind action))).phase := by
  have same := congrArg phase (builder.takeStep_eq kind action)
  exact same

theorem takeStep_topLevel :
    (builder.takeStep kind action).topLevel =
      if builder.region = .topLevel then builder.trail.goTo (builder.nodeFor kind action)
      else builder.topLevel := by
  rw [← setTrail_topLevel]
  have same := congrArg topLevel (builder.takeStep_eq kind action)
  exact same

theorem takeStep_trail :
    (builder.takeStep kind action).trail = builder.trail.goTo (builder.nodeFor kind action) := by
  rw [← builder.setTrail_trail (builder.trail.goTo (builder.nodeFor kind action))]
  have same := congrArg trail (builder.takeStep_eq kind action)
  exact same

theorem takeStep_region : (builder.takeStep kind action).region = builder.region := by
  rw [← builder.setTrail_region (builder.trail.goTo (builder.nodeFor kind action))]
  have same := congrArg region (builder.takeStep_eq kind action)
  exact same

theorem takeStep_shared : (builder.takeStep kind action).shared = builder.sharedAfter kind action := by
  have same := congrArg shared (builder.takeStep_eq kind action)
  exact same

theorem takeStep_reuse : (builder.takeStep kind action).reuse = builder.reuse := by
  rw [← builder.setTrail_reuse (builder.trail.goTo (builder.nodeFor kind action))]
  have same := congrArg reuse (builder.takeStep_eq kind action)
  exact same

theorem takeStep_manualPrefix : (builder.takeStep kind action).manualPrefix = builder.manualPrefix := by
  rw [← builder.setTrail_manualPrefix (builder.trail.goTo (builder.nodeFor kind action))]
  have same := congrArg manualPrefix (builder.takeStep_eq kind action)
  exact same

theorem takeStep_running (running : builder.phase ≠ .finished) :
    (builder.takeStep kind action).phase ≠ .finished := by
  rw [takeStep_phase, Ne, setTrail_finished]
  exact running

/-- At the border of a test nothing is learnt about shared nodes. -/
theorem openTest_sharedNode? {key : StepKey} {id : NodeId}
    (found : (builder.openTest action).sharedNode? key = some id) : builder.sharedNode? key = some id := by
  rw [sharedNode?, openTest_shared, sharedBeyond] at found
  split at found
  · cases found
  · exact found

theorem closeTest_sharedNode? {key : StepKey} {id : NodeId}
    (found : builder.closeTest.sharedNode? key = some id) : builder.sharedNode? key = some id := by
  rw [sharedNode?, closeTest_shared, sharedBeyond] at found
  split at found
  · split at found
    · cases found
    · exact found
  · exact found

/-- A step that may share a node leaves its key on the node it is linked to. -/
theorem takeStep_sharedNode? (key : StepKey) :
    (builder.takeStep kind action).sharedNode? key =
      if needsOwnNode kind action = false ∧ key = stepKey kind action then
        some (builder.nodeFor kind action)
      else builder.sharedNode? key := by
  cases own : needsOwnNode kind action with
  | true => simp [sharedNode?, takeStep_shared, sharedAfter, own]
  | false =>
    cases found : builder.sharedNode? (stepKey kind action) with
    | some id =>
      have unchanged : (builder.takeStep kind action).shared = builder.shared := by
        simp [takeStep_shared, sharedAfter, found]
      have recalled : builder.nodeFor kind action = id := by simp [nodeFor, own, found]
      rw [sharedNode?, unchanged]
      by_cases same : key = stepKey kind action
      · rw [if_pos ⟨rfl, same⟩, recalled, same, ← found, sharedNode?]
      · rw [if_neg fun both => same both.2, sharedNode?]
    | none =>
      have added : (builder.takeStep kind action).shared =
          (stepKey kind action, builder.nodeFor kind action) :: builder.shared := by
        simp [takeStep_shared, sharedAfter, nodeFor, own, found]
      rw [sharedNode?, added, List.lookup_cons, sharedNode?]
      by_cases same : key = stepKey kind action
      · simp [same]
      · simp [same, beq_eq_false_iff_ne.mpr same]

/-! ## What the lines record -/

theorem closeTest_nodes : builder.closeTest.nodes = builder.nodes := by
  simp only [nodes, closeTest_lines]
  split <;> simp [Line.node?]

theorem closeTest_edges : builder.closeTest.edges = builder.edges := by
  simp only [edges, closeTest_lines]
  split <;> simp [Line.edge?]

theorem closeTest_tests : builder.closeTest.tests = builder.tests := by
  simp only [tests, closeTest_lines]
  split <;> simp [Line.isTestStart]

theorem openTest_nodes : (builder.openTest action).nodes = builder.nodes := by
  rw [← closeTest_nodes builder]
  simp [nodes, openTest_lines, Line.node?]

theorem openTest_edges : (builder.openTest action).edges = builder.edges := by
  rw [← closeTest_edges builder]
  simp [edges, openTest_lines, Line.edge?]

theorem openTest_tests : (builder.openTest action).tests = builder.tests + 1 := by
  rw [← closeTest_tests builder]
  simp [tests, openTest_lines, Line.isTestStart]

theorem takeStep_nodes :
    (builder.takeStep kind action).nodes = builder.nodes ++ (builder.newNode? kind action).toList := by
  simp [nodes, takeStep_lines, stepLines, List.filterMap_map, Function.comp_def, Line.node?]

theorem takeStep_edges :
    (builder.takeStep kind action).edges =
      builder.edges ++ (builder.trail.newEdge? (builder.nodeFor kind action)).toList := by
  simp [edges, takeStep_lines, stepLines, List.filterMap_map, Function.comp_def, Line.edge?]

theorem takeStep_tests : (builder.takeStep kind action).tests = builder.tests := by
  simp [tests, takeStep_lines, stepLines, List.countP_map, Function.comp_def, Line.isTestStart]

end Builder

end TestFlow.Diagram

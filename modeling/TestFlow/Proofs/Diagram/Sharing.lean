import TestFlow.Proofs.Diagram.Run

/-! # Which steps share a node

The table of shared nodes is consulted and filled by steps and emptied at the borders of tests. Told
without the table: two steps are linked to one node exactly if both may share, their keys are equal
and sharing reaches from one to the other. The node of a step carries the step's label either way.
-/

namespace TestFlow.Diagram

/-- Whether sharing reaches across the moments between two steps: always across a whole run, and
within tests if the border of none is crossed. -/
def Reuse.reaches (reuse : Reuse) (between : List Moment) : Bool :=
  match reuse with
  | .acrossRun => true
  | .withinTest => between.all (!·.crossesBorder)

/-- The key under which an operation shares a node. -/
def Operation.sharedKey? : Operation → Option StepKey
  | .add action =>
    match action.kind with
    | .testStart => none
    | .step kind => if Builder.needsOwnNode kind action then none else some (stepKey kind action)
  | _ => none

theorem Operation.sharedKey?_opened {operation : Operation} {action : Action}
    (opened : operation.opened? = some action) : operation.sharedKey? = none := by
  cases operation with
  | add given =>
    simp only [opened?, Option.ite_none_right_eq_some] at opened
    simp only [sharedKey?, opened.1]
  | _ => rfl

theorem Operation.sharedKey?_step {kind : StepKind} {action : Action} (isStep : action.kind = .step kind) :
    (Operation.add action).sharedKey? =
      if Builder.needsOwnNode kind action then none else some (stepKey kind action) := by
  simp only [sharedKey?, isStep]

theorem Reuse.reaches_nil (reuse : Reuse) : reuse.reaches [] = true := by
  cases reuse <;> rfl

theorem Reuse.reaches_iff (reuse : Reuse) (between : List Moment) :
    reuse.reaches between ↔
      reuse = .acrossRun ∨ reuse = .withinTest ∧ ∀ moment ∈ between, moment.crossesBorder = false := by
  cases reuse <;> simp [reaches]

theorem Builder.needsOwnNode_eq_false (kind : StepKind) (action : Action) :
    needsOwnNode kind action = false ↔ kind ≠ .assertion ∧ action.isComputed = false := by
  simp [needsOwnNode]

theorem Reuse.reaches_append_singleton (reuse : Reuse) (between : List Moment) (moment : Moment) :
    reuse.reaches (between ++ [moment]) =
      (reuse.reaches between && (reuse = .acrossRun || !moment.crossesBorder)) := by
  cases reuse <;> simp [reaches]

/-- An item of a list with one more at its end is that last one, or stands before it. -/
theorem last_or_before {α : Type} {items earlier since : List α} {last item : α}
    (split : items ++ [last] = earlier ++ item :: since) :
    (item = last ∧ since = []) ∨ ∃ rest, since = rest ++ [last] ∧ items = earlier ++ item :: rest := by
  rcases List.append_eq_append_iff.mp split with ⟨middle, -, ends⟩ | ⟨middle, begins, ends⟩
  · cases middle with
    | nil => exact .inl ⟨(List.cons.inj ends).1.symm, (List.cons.inj ends).2.symm⟩
    | cons head rest => simp at ends
  · cases middle with
    | nil => exact .inl (List.cons.inj ends)
    | cons head rest =>
      obtain ⟨rfl, rfl⟩ := List.cons.inj ends
      exact .inr ⟨rest, rfl, begins⟩

/-- How the table of a builder tells of the moments that led to it: a step within reach has its key in
the table, and a node in the table was linked to by steps within reach alone, all of them of its key. -/
structure Recorded (moments : List Moment) (builder : Builder) : Prop where
  bounded : ∀ moment ∈ moments, ∀ id, moment.linked? = some id → id.number ≤ builder.nodes.length
  entered : ∀ earlier moment since key, moments = earlier ++ moment :: since →
    moment.operation.sharedKey? = some key → builder.reuse.reaches since →
      ∃ id, moment.linked? = some id ∧ builder.sharedNode? key = some id
  known : ∀ key id, builder.sharedNode? key = some id → ∃ moment ∈ moments, moment.linked? = some id
  owned : ∀ key id earlier moment since, builder.sharedNode? key = some id →
    moments = earlier ++ moment :: since → moment.linked? = some id →
      moment.operation.sharedKey? = some key ∧ builder.reuse.reaches since

namespace Recorded

variable {moments : List Moment} {builder next : Builder} {operation : Operation} {kind : StepKind}
  {action : Action}

/-- An operation that is no step forgets the table if it crosses a border and sharing ends there. -/
theorem pass (recorded : Recorded moments builder)
    (unlinked : Moment.linked? ⟨builder, operation, next⟩ = none)
    (unshared : operation.sharedKey? = none) (nodes : next.nodes = builder.nodes)
    (reuse : next.reuse = builder.reuse)
    (shared : next.shared = if Moment.crossesBorder ⟨builder, operation, next⟩ then builder.sharedBeyond
      else builder.shared) :
    Recorded (moments ++ [⟨builder, operation, next⟩]) next := by
  have table (key : StepKey) : next.sharedNode? key =
      if builder.reuse = .acrossRun ∨ Moment.crossesBorder ⟨builder, operation, next⟩ = false then
        builder.sharedNode? key else none := by
    cases crosses : Moment.crossesBorder ⟨builder, operation, next⟩ <;>
      cases kept : builder.reuse <;>
      simp [Builder.sharedNode?, shared, crosses, Builder.sharedBeyond, kept]
  constructor
  · intro moment member id linked
    rcases List.mem_append.mp member with past | last
    · rw [nodes]
      exact recorded.bounded moment past id linked
    · rw [List.mem_singleton.mp last, unlinked] at linked
      cases linked
  · intro earlier moment since key split mayShare reaches
    rcases last_or_before split with ⟨rfl, -⟩ | ⟨rest, rfl, before⟩
    · rw [unshared] at mayShare
      cases mayShare
    · rw [Reuse.reaches_append_singleton, reuse, Bool.and_eq_true] at reaches
      obtain ⟨id, linked, found⟩ := recorded.entered earlier moment rest key before mayShare reaches.1
      refine ⟨id, linked, ?_⟩
      rw [table, if_pos (by simpa using reaches.2), found]
  · intro key id found
    rw [table] at found
    split at found
    · obtain ⟨moment, member, linked⟩ := recorded.known key id found
      exact ⟨moment, List.mem_append_left _ member, linked⟩
    · cases found
  · intro key id earlier moment since found split linked
    rw [table] at found
    split at found
    · rename_i kept
      rcases last_or_before split with ⟨rfl, -⟩ | ⟨rest, rfl, before⟩
      · rw [unlinked] at linked
        cases linked
      · obtain ⟨mayShare, reaches⟩ := recorded.owned key id earlier moment rest found before linked
        refine ⟨mayShare, ?_⟩
        rw [Reuse.reaches_append_singleton, reuse, reaches]
        simpa using kept
    · cases found

theorem opened (recorded : Recorded moments builder) (opened : operation.opened? = some action) :
    Recorded (moments ++ [⟨builder, operation, builder.openTest action⟩]) (builder.openTest action) := by
  apply recorded.pass (Moment.linked?_opened opened) (Operation.sharedKey?_opened opened)
    (builder.openTest_nodes action) (builder.openTest_reuse action)
  simp [Moment.crossesBorder, opened, Builder.openTest_shared]

theorem closed (recorded : Recorded moments builder) :
    Recorded (moments ++ [⟨builder, .endTest, builder.closeTest⟩]) builder.closeTest := by
  apply recorded.pass Moment.linked?_closed rfl builder.closeTest_nodes builder.closeTest_reuse
  simp [Moment.crossesBorder, Builder.closeTest_shared]

theorem number_le (recorded : Recorded moments builder) {key : StepKey} {id : NodeId}
    (found : builder.sharedNode? key = some id) : id.number ≤ builder.nodes.length := by
  obtain ⟨moment, member, linked⟩ := recorded.known key id found
  exact recorded.bounded moment member id linked

/-- No node is shared under two keys. -/
theorem key_unique (recorded : Recorded moments builder) {first second : StepKey} {id : NodeId}
    (underFirst : builder.sharedNode? first = some id)
    (underSecond : builder.sharedNode? second = some id) : first = second := by
  obtain ⟨moment, member, linked⟩ := recorded.known first id underFirst
  obtain ⟨earlier, since, split⟩ := List.append_of_mem member
  have one := (recorded.owned first id earlier moment since underFirst split linked).1
  have other := (recorded.owned second id earlier moment since underSecond split linked).1
  exact Option.some.inj (one.symm.trans other)

theorem nodeFor_number_le (recorded : Recorded moments builder) (kind : StepKind) (action : Action) :
    (builder.nodeFor kind action).number ≤ (builder.takeStep kind action).nodes.length := by
  rw [Builder.takeStep_nodes]
  rcases builder.nodeFor_cases kind action with ⟨fresh, new⟩ | ⟨-, found, new⟩
  · simp [fresh, new, Builder.nextId]
  · have := recorded.number_le found
    simpa [new] using this

/-- A node that is next has not been linked to yet. -/
theorem linked?_ne_nextId (recorded : Recorded moments builder) {moment : Moment}
    (member : moment ∈ moments) (kind : StepKind) : moment.linked? ≠ some (builder.nextId kind) := by
  intro linked
  have bound := recorded.bounded moment member _ linked
  simp only [Builder.nextId] at bound
  omega

/-- A shared node that a step is linked to is shared under the key of that step. -/
theorem key_of_nodeFor (recorded : Recorded moments builder) {key : StepKey}
    (found : builder.sharedNode? key = some (builder.nodeFor kind action)) :
    Builder.needsOwnNode kind action = false ∧ key = stepKey kind action := by
  rcases builder.nodeFor_cases kind action with ⟨fresh, -⟩ | ⟨shares, same, -⟩
  · have bound := recorded.number_le found
    simp only [fresh, Builder.nextId] at bound
    omega
  · exact ⟨shares, recorded.key_unique found same⟩

theorem stepped (recorded : Recorded moments builder) (isStep : action.kind = .step kind) :
    Recorded (moments ++ [⟨builder, .add action, builder.takeStep kind action⟩])
      (builder.takeStep kind action) := by
  have linkedHere :
      Moment.linked? ⟨builder, .add action, builder.takeStep kind action⟩ =
        some (builder.nodeFor kind action) := Moment.linked?_stepped isStep
  have passes : Moment.crossesBorder ⟨builder, .add action, builder.takeStep kind action⟩ = false := by
    simp [Moment.crossesBorder, Operation.opened?_of_kind isStep]
  constructor
  · intro moment member id linked
    rcases List.mem_append.mp member with past | last
    · have grows : builder.nodes.length ≤ (builder.takeStep kind action).nodes.length := by
        simp [Builder.takeStep_nodes]
      exact Nat.le_trans (recorded.bounded moment past id linked) grows
    · rw [List.mem_singleton.mp last, linkedHere, Option.some.injEq] at linked
      exact linked ▸ recorded.nodeFor_number_le kind action
  · intro earlier moment since key split mayShare reaches
    rcases last_or_before split with ⟨rfl, -⟩ | ⟨rest, rfl, before⟩
    · rw [Operation.sharedKey?_step isStep, Option.ite_none_left_eq_some] at mayShare
      refine ⟨_, linkedHere, ?_⟩
      rw [Builder.takeStep_sharedNode?,
        if_pos ⟨by simpa using mayShare.1, (Option.some.inj mayShare.2).symm⟩]
    · rw [Reuse.reaches_append_singleton, Builder.takeStep_reuse, Bool.and_eq_true] at reaches
      obtain ⟨id, linked, found⟩ := recorded.entered earlier moment rest key before mayShare reaches.1
      refine ⟨id, linked, ?_⟩
      rw [Builder.takeStep_sharedNode?]
      split
      · rename_i same
        rw [same.2] at found
        simp [Builder.nodeFor, same.1, found]
      · exact found
  · intro key id found
    rw [Builder.takeStep_sharedNode?] at found
    split at found
    · exact ⟨_, List.mem_append_right _ (List.mem_singleton_self _), linkedHere.trans found⟩
    · obtain ⟨moment, member, linked⟩ := recorded.known key id found
      exact ⟨moment, List.mem_append_left _ member, linked⟩
  · intro key id earlier moment since found split linked
    rw [Builder.takeStep_sharedNode?] at found
    rcases last_or_before split with ⟨rfl, rfl⟩ | ⟨rest, rfl, before⟩
    · rw [linkedHere] at linked
      have own : Builder.needsOwnNode kind action = false ∧ key = stepKey kind action := by
        split at found
        · assumption
        · exact recorded.key_of_nodeFor (found.trans linked.symm)
      refine ⟨?_, Reuse.reaches_nil _⟩
      simp [Operation.sharedKey?_step isStep, own.1, own.2]
    · have member : moment ∈ moments := before ▸ List.mem_append_right _ List.mem_cons_self
      have old : builder.sharedNode? key = some id := by
        split at found
        · rename_i same
          rcases builder.nodeFor_cases kind action with ⟨fresh, -⟩ | ⟨-, shared, -⟩
          · rw [fresh] at found
            exact (recorded.linked?_ne_nextId member kind (linked.trans found.symm)).elim
          · rw [same.2, shared, found]
        · exact found
      obtain ⟨mayShare, reaches⟩ := recorded.owned key id earlier moment rest old before linked
      refine ⟨mayShare, ?_⟩
      rw [Reuse.reaches_append_singleton, Builder.takeStep_reuse, reaches, passes]
      simp

end Recorded

namespace History

variable {manualPrefix : String} {reuse : Reuse} {moments : List Moment} {builder : Builder}

theorem recorded (history : History (.fresh manualPrefix reuse) moments builder) :
    Recorded moments builder := by
  induction history with
  | start =>
    constructor
    · intro moment member
      cases member
    · intro earlier moment since key split
      simp at split
    · intro key id found
      cases found
    · intro key id earlier moment since found
      cases found
  | next _ move ih =>
    cases move with
    | opened opened => exact ih.opened opened
    | closed => exact ih.closed
    | stepped isStep => exact ih.stepped isStep

/-- A node in the table is declared, with the label and the kind of its key. -/
theorem shared_declared (history : History (.fresh manualPrefix reuse) moments builder) {key : StepKey}
    {id : NodeId} (found : builder.sharedNode? key = some id) :
    id.kind = key.kind ∧ ⟨id, stepLabel key⟩ ∈ builder.nodes := by
  induction history generalizing key id with
  | start => cases found
  | @next _ builder _ _ _ move ih =>
    cases move with
    | opened _ =>
      rw [Builder.openTest_nodes]
      exact ih (Builder.openTest_sharedNode? _ _ found)
    | closed =>
      rw [Builder.closeTest_nodes]
      exact ih (Builder.closeTest_sharedNode? _ found)
    | @stepped kind action _ =>
      rw [Builder.takeStep_sharedNode?] at found
      rw [Builder.takeStep_nodes]
      split at found
      · rename_i same
        obtain rfl := Option.some.inj found
        rw [same.2]
        rcases builder.nodeFor_cases kind action with ⟨fresh, new⟩ | ⟨-, known, -⟩
        · simp [fresh, new, Builder.nextId]
        · exact ⟨(ih known).1, List.mem_append_left _ (ih known).2⟩
      · exact ⟨(ih found).1, List.mem_append_left _ (ih found).2⟩

/-- The node that a step is linked to is declared, with the label and the kind of the step. -/
theorem nodeFor_declared (history : History (.fresh manualPrefix reuse) moments builder)
    (kind : StepKind) (action : Action) :
    (builder.nodeFor kind action).kind = kind ∧
      ⟨builder.nodeFor kind action, stepLabel (stepKey kind action)⟩ ∈
        (builder.takeStep kind action).nodes := by
  rw [Builder.takeStep_nodes]
  rcases builder.nodeFor_cases kind action with ⟨fresh, new⟩ | ⟨-, known, -⟩
  · simp [fresh, new, Builder.nextId]
  · obtain ⟨sameKind, declared⟩ := history.shared_declared known
    exact ⟨sameKind, List.mem_append_left _ declared⟩

/-- Every step of a run is linked to a declared node, which carries the label and the kind of the
step. -/
theorem linked_declared (history : History (.fresh manualPrefix reuse) moments builder)
    {moment : Moment} (member : moment ∈ moments) {kind : StepKind} {action : Action}
    (asked : moment.operation = .add action) (isStep : action.kind = .step kind) :
    ∃ id, moment.linked? = some id ∧ id.kind = kind ∧
      ⟨id, stepLabel (stepKey kind action)⟩ ∈ builder.nodes := by
  obtain ⟨⟨past, before⟩, move, declared⟩ := history.move_of_mem member
  rw [asked] at move
  obtain ⟨ofKind, here⟩ := before.nodeFor_declared kind action
  rw [← move.eq_takeStep isStep] at here
  refine ⟨_, ?_, ofKind, declared.subset here⟩
  simp only [Moment.linked?, asked, isStep]

/-- The label of the node that a step is linked to tells of the step. -/
theorem linked_described (history : History (.fresh manualPrefix reuse) moments builder)
    {moment : Moment} (member : moment ∈ moments) {kind : StepKind} {action : Action}
    (asked : moment.operation = .add action) (isStep : action.kind = .step kind) :
    ∃ id text, moment.linked? = some id ∧ id.kind = kind ∧ Describes (stepKey kind action) text ∧
      ⟨id, escapeLabel text⟩ ∈ builder.nodes := by
  obtain ⟨id, linked, ofKind, declared⟩ := history.linked_declared member asked isStep
  obtain ⟨text, described, same⟩ := exists_describes (stepKey kind action)
  exact ⟨id, text, linked, ofKind, described, same ▸ declared⟩

/-- The next step is linked to the node of an earlier one exactly if both may share a node, have the
same key, and sharing reaches from one to the other. -/
theorem linked_eq_iff {earlier between : List Moment} {first : Moment}
    (history : History (.fresh manualPrefix reuse) (earlier ++ first :: between) builder)
    {firstKind kind : StepKind} {firstAction action : Action}
    (asked : first.operation = .add firstAction) (isStep : firstAction.kind = .step firstKind) :
    first.linked? = some (builder.nodeFor kind action) ↔
      Builder.needsOwnNode firstKind firstAction = false ∧ Builder.needsOwnNode kind action = false ∧
        stepKey firstKind firstAction = stepKey kind action ∧ builder.reuse.reaches between := by
  have recorded := history.recorded
  have member : first ∈ earlier ++ first :: between := List.mem_append_right _ List.mem_cons_self
  constructor
  · intro linked
    rcases builder.nodeFor_cases kind action with ⟨fresh, -⟩ | ⟨shares, found, -⟩
    · rw [fresh] at linked
      exact (recorded.linked?_ne_nextId member kind linked).elim
    · obtain ⟨mayShare, reaches⟩ := recorded.owned _ _ _ _ _ found rfl linked
      rw [asked, Operation.sharedKey?_step isStep, Option.ite_none_left_eq_some,
        Option.some.injEq] at mayShare
      exact ⟨by simpa using mayShare.1, shares, mayShare.2, reaches⟩
  · rintro ⟨firstShares, shares, sameKey, reaches⟩
    have mayShare : first.operation.sharedKey? = some (stepKey firstKind firstAction) := by
      simp [asked, Operation.sharedKey?_step isStep, firstShares]
    obtain ⟨id, linked, found⟩ := recorded.entered _ _ _ _ rfl mayShare reaches
    rw [sameKey] at found
    simp [linked, Builder.nodeFor, shares, found]

end History

/-- Two steps of a run are linked to one node exactly if neither is an assertion nor computed, their
keys are equal, and no test is opened or closed between them unless sharing goes across the run. Every
step is linked to a declared node of its own kind whose label, once escaped, tells of the step. -/
theorem linked_eq_iff_same_key {settings : Settings} {given : Option String} {builder : Builder}
    {operations : List Operation} (started : Builder.start settings given = .ok builder)
    (unfinished : .finish ∉ operations) :
    operations.foldlM Builder.perform builder = .ok (builder.run operations) ∧
      (builder.run operations).nodes.map (·.id.number) =
        List.range' 1 (builder.run operations).nodes.length ∧
      (∀ moment ∈ builder.moments operations, ∀ kind action,
        moment.operation = .add action → action.kind = .step kind →
          moment.after.trail.last = moment.linked? ∧
            ∃ id text, moment.linked? = some id ∧ id.kind = kind ∧ Describes (stepKey kind action) text ∧
              ⟨id, escapeLabel text⟩ ∈ (builder.run operations).nodes) ∧
      ∀ earlier first between second later firstKind firstAction secondKind secondAction,
        builder.moments operations = earlier ++ first :: (between ++ second :: later) →
        first.operation = .add firstAction → firstAction.kind = .step firstKind →
        second.operation = .add secondAction → secondAction.kind = .step secondKind →
          (first.linked? = second.linked? ↔
            (firstKind ≠ .assertion ∧ secondKind ≠ .assertion) ∧
              (firstAction.isComputed = false ∧ secondAction.isComputed = false) ∧
              firstAction.key? = secondAction.key? ∧
              (builder.reuse = .acrossRun ∨
                builder.reuse = .withinTest ∧ ∀ moment ∈ between, moment.crossesBorder = false)) := by
  obtain ⟨history, performed⟩ := History.of_run_started started unfinished
  refine ⟨performed, history.nodes_numbered, ?_, ?_⟩
  · intro moment member kind action asked isStep
    have steps : moment.operation.isStep := by
      rw [asked]
      exact Operation.isStep_of_kind isStep
    exact ⟨((history.move_of_mem member).2.1.step_stays steps).2,
      history.linked_described member asked isStep⟩
  · intro earlier first between second later firstKind firstAction secondKind secondAction split
      firstAsked firstStep secondAsked secondStep
    rw [← List.cons_append, ← List.append_assoc] at split
    obtain ⟨past, future, rfl, walked, reached⟩ := Builder.moments_eq_append_cons split
    have before : .finish ∉ past := fun member => unfinished (List.mem_append_left _ member)
    obtain ⟨toSecond, -⟩ := History.of_run_started started before
    rw [walked, reached] at toSecond
    have linkedSecond : second.linked? = some (second.before.nodeFor secondKind secondAction) := by
      simp only [Moment.linked?, secondAsked, secondStep]
    rw [linkedSecond, toSecond.linked_eq_iff firstAsked firstStep, key?_eq_stepKey firstStep,
      key?_eq_stepKey secondStep, Option.some.injEq, toSecond.reuse, Builder.fresh,
      Reuse.reaches_iff, Builder.needsOwnNode_eq_false, Builder.needsOwnNode_eq_false]
    tauto

/-- The visits in the test share a node; the visit before the test has another, for all that its key is
the same. -/
theorem sharing_in_sample :
    Builder.start {} none = .ok sampleBuilder ∧ .finish ∉ sampleRun ∧
      (sampleBuilder.moments sampleRun)[2].linked? = (sampleBuilder.moments sampleRun)[4].linked? ∧
      (sampleBuilder.moments sampleRun)[0].linked? ≠ (sampleBuilder.moments sampleRun)[2].linked? := by
  obtain ⟨-, -, -, shared⟩ := linked_eq_iff_same_key sample_started sample_unfinished
  refine ⟨sample_started, sample_unfinished, ?_, ?_⟩
  · refine (shared ((sampleBuilder.moments sampleRun).take 2) _ [(sampleBuilder.moments sampleRun)[3]] _
      ((sampleBuilder.moments sampleRun).drop 5) .navigate sampleVisit .navigate sampleVisit
      rfl rfl rfl rfl rfl).mpr ?_
    exact ⟨by decide, by decide, rfl, .inr ⟨rfl, by decide⟩⟩
  · intro same
    have inOneTest := (shared [] _ [(sampleBuilder.moments sampleRun)[1]] _
      ((sampleBuilder.moments sampleRun).drop 3) .navigate sampleVisit .navigate sampleVisit
      rfl rfl rfl rfl rfl).mp same
    revert inOneTest
    decide

end TestFlow.Diagram

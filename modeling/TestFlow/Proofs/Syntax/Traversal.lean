import Mathlib.Data.List.Nodup
import Mathlib.Logic.Relation
import TestFlow.Proofs.Syntax.Subtree

/-! # The loops that go through a tree

Both loops keep what is left to do in a list: `preorder` the nodes still to list, `walk` the nodes still to
visit and the scopes still to leave. Both come to what a recursion over the tree comes to. No node is met
twice, none is left out, and the scopes of a walk are nested as their calls are.
-/

namespace TestFlow.Syntax

/-! ## Listing the nodes -/

theorem preorder_node (focus : Focus) (rest : List Node) :
    preorder (focus.node :: rest) = focus.subtree.map (·.node) ++ preorder rest := by
  induction focus using Focus.induction generalizing rest with
  | below focus ih =>
    rw [preorder, ← focus.children_map_node, workOff_map ih, Focus.subtree_eq, List.map_cons,
      List.map_flatMap, List.cons_append]

namespace Focus

/-- One comes from the first node to the second by going from parents to children, if at all. -/
def LeadsTo : Focus → Focus → Prop :=
  Relation.ReflTransGen fun parent child => child ∈ parent.children

theorem mem_subtree_iff {focus call : Focus} : call ∈ focus.subtree ↔ focus.LeadsTo call := by
  constructor
  · intro member
    induction focus using Focus.induction with
    | below focus ih =>
      rw [subtree_eq, List.mem_cons, List.mem_flatMap] at member
      rcases member with rfl | ⟨child, among, inChild⟩
      · exact .refl
      · exact .head among (ih child among inChild)
  · intro leads
    induction leads using Relation.ReflTransGen.head_induction_on with
    | refl => exact self_mem_subtree call
    | head among _ inChild => exact mem_subtree_of_child among inChild

/-- Parts that stand each in a child of its own have nothing in common. -/
theorem nodup_flatMap_children {α : Type} {focus : Focus} {parts : Focus → List α} (place : α → Focus)
    (each : ∀ child ∈ focus.children, (parts child).Nodup)
    (inside : ∀ child ∈ focus.children, ∀ part ∈ parts child, (place part).isWithin child = true) :
    (focus.children.flatMap parts).Nodup := by
  refine List.nodup_flatMap.mpr ⟨each, focus.children_apart.imp_of_mem ?_⟩
  intro first second firstAmong secondAmong apart part inFirst inSecond
  have outside := apart (place part) (inside first firstAmong part inFirst)
  rw [inside second secondAmong part inSecond] at outside
  cases outside

/-- No node is met twice in a subtree. -/
theorem subtree_nodup (focus : Focus) : focus.subtree.Nodup := by
  induction focus using Focus.induction with
  | below focus ih =>
    rw [subtree_eq, List.nodup_cons]
    exact ⟨focus.not_mem_below, nodup_flatMap_children id ih fun _ _ _ => isWithin_of_mem_subtree⟩

end Focus

/-! ## Entering and leaving in turn -/

section

variable {isScope : Focus → Bool}

/-- The call that an event enters. -/
def Event.entered? : Event → Option Focus
  | .enter call => some call
  | .leave _ => none

theorem Focus.visits_entered (focus : Focus) :
    (focus.visits isScope).filterMap Event.entered? = focus.subtree.filter (·.node.isCall) := by
  induction focus using Focus.induction with
  | below focus ih =>
    have below : (focus.children.flatMap (visits isScope)).filterMap Event.entered? =
        (focus.children.flatMap subtree).filter (·.node.isCall) := by
      rw [List.filterMap_flatMap, List.filter_flatMap]
      exact List.flatMap_congr ih
    have leaving : (if focus.node.isCall && isScope focus then [Event.leave focus] else []).filterMap
        Event.entered? = [] := by
      split <;> rfl
    rw [visits_eq, subtree_eq, List.filterMap_append, List.filterMap_append, below, leaving,
      List.append_nil, List.filter_cons]
    split <;> rfl

theorem Focus.enter_mem_visits_iff {focus call : Focus} :
    .enter call ∈ focus.visits isScope ↔ call ∈ focus.subtree ∧ call.node.isCall = true := by
  have filtered : call ∈ focus.subtree ∧ call.node.isCall = true ↔
      call ∈ (focus.visits isScope).filterMap Event.entered? := by
    rw [visits_entered, List.mem_filter]
  rw [filtered, List.mem_filterMap]
  constructor
  · exact fun entered => ⟨_, entered, rfl⟩
  · rintro ⟨event, among, enters⟩
    cases event with
    | enter other =>
      obtain rfl := Option.some.inj enters
      exact among
    | leave other => cases enters

theorem Focus.leave_mem_visits_iff {focus call : Focus} :
    .leave call ∈ focus.visits isScope ↔
      call ∈ focus.subtree ∧ call.node.isCall = true ∧ isScope call = true := by
  constructor
  · intro left
    obtain ⟨before, after, split⟩ := List.append_of_mem left
    obtain ⟨member, isCall, opens, -⟩ := visits_before_leave split
    exact ⟨member, isCall, opens⟩
  · rintro ⟨member, isCall, opens⟩
    exact leave_mem_visits member isCall opens

theorem Focus.call_mem_of_mem_visits {focus : Focus} {event : Event} (among : event ∈ focus.visits isScope) :
    event.call ∈ focus.subtree := by
  cases event with
  | enter call => exact (enter_mem_visits_iff.mp among).1
  | leave call => exact (leave_mem_visits_iff.mp among).1

/-- No event of a walk is reported twice. -/
theorem Focus.visits_nodup (focus : Focus) : (focus.visits isScope).Nodup := by
  induction focus using Focus.induction with
  | below focus ih =>
    have below : (focus.children.flatMap (visits isScope)).Nodup :=
      nodup_flatMap_children Event.call ih fun child _ event among =>
        isWithin_of_mem_subtree (call_mem_of_mem_visits among)
    have away (event : Event) (own : event.call = focus) :
        event ∉ focus.children.flatMap (visits isScope) := by
      intro among
      obtain ⟨child, member, inChild⟩ := List.mem_flatMap.mp among
      have inSubtree := call_mem_of_mem_visits inChild
      rw [own] at inSubtree
      exact focus.not_mem_below (List.mem_flatMap.mpr ⟨child, member, inSubtree⟩)
    have entering := away (.enter focus) rfl
    have leaving := away (.leave focus) rfl
    rw [visits_eq]
    cases focus.node.isCall with
    | false => simpa using below
    | true =>
      cases isScope focus with
      | false => simpa using And.intro entering below
      | true =>
        have closed := below.concat leaving
        rw [List.concat_eq_append] at closed
        simpa using And.intro entering closed

variable (isScope) in
/-- Events in which scopes are nested: what is entered in a scope is left before the scope is, and every
scope that is entered is left. -/
inductive Nested : List Event → Prop where
  | nil : Nested []
  | plain {call : Focus} {after : List Event} (closed : isScope call = false) (rest : Nested after) :
      Nested (.enter call :: after)
  | scope {call : Focus} {inside after : List Event} (opens : isScope call = true) (within : Nested inside)
      (rest : Nested after) : Nested (.enter call :: (inside ++ .leave call :: after))

theorem Nested.append {first second : List Event} (nested : Nested isScope first)
    (more : Nested isScope second) : Nested isScope (first ++ second) := by
  induction nested with
  | nil => exact more
  | plain closed _ ih => exact .plain closed ih
  | scope opens within _ _ ih =>
    rw [List.cons_append, List.append_assoc, List.cons_append]
    exact .scope opens within ih

theorem Nested.flatMap {foci : List Focus} {parts : Focus → List Event}
    (each : ∀ focus ∈ foci, Nested isScope (parts focus)) : Nested isScope (foci.flatMap parts) := by
  induction foci with
  | nil => exact .nil
  | cons focus rest ih =>
    rw [List.flatMap_cons]
    exact (each focus List.mem_cons_self).append
      (ih fun other member => each other (List.mem_cons_of_mem _ member))

theorem Focus.visits_nested (focus : Focus) : Nested isScope (focus.visits isScope) := by
  induction focus using Focus.induction with
  | below focus ih =>
    have below := Nested.flatMap ih
    rw [visits_eq]
    cases focus.node.isCall with
    | false => simpa using below
    | true =>
      cases opens : isScope focus with
      | false => simpa using Nested.plain opens below
      | true => simpa using Nested.scope opens below .nil

/-- What a walk reports from entering a scope to leaving it is what it reports of the parts of the scope. -/
theorem Focus.visits_between {focus scope : Focus} {before inside after : List Event}
    (split : focus.visits isScope = before ++ .enter scope :: (inside ++ .leave scope :: after)) :
    inside = scope.children.flatMap (visits isScope) := by
  have leaving : focus.visits isScope = (before ++ .enter scope :: inside) ++ .leave scope :: after := by
    rw [split, List.append_assoc, List.cons_append]
  obtain ⟨-, -, -, early, entered⟩ := visits_before_leave leaving
  -- The scope is entered once, so that both splits are one.
  have once : (before ++ .enter scope :: inside).Nodup := by
    have whole : (focus.visits isScope).Nodup := focus.visits_nodup
    rw [leaving] at whole
    exact whole.of_append_left
  rw [entered, List.nodup_append] at once
  have notBefore : Event.enter scope ∉ early := fun among => once.2.2 _ among _ List.mem_cons_self rfl
  have notInside : Event.enter scope ∉ scope.children.flatMap (visits isScope) :=
    (List.nodup_cons.mp once.2.1).1
  exact ((List.append_cons_inj_of_notMem notBefore notInside).mp entered.symm).2.2.symm

end

/-! ## Both loops -/

theorem preorder_eq (root : Node) : preorder [root] = (Focus.root root).subtree.map (·.node) := by
  have listed := preorder_node (.root root) []
  rwa [preorder, List.append_nil] at listed

/-- A walk reports what a recursion over the tree reports: a call, then its children from left to right, then
the leaving of the call if it is a scope. So every call of the tree is entered once and every scope is left
once, scopes are nested, and between entering and leaving a scope come the events of its parts. The listing
of the nodes has every node of the tree once, each before its children, and the calls in it are those that
a walk enters, in the same order. -/
theorem walks_follow_recursion (isScope : Focus → Bool) (root : Node) :
    (events isScope root = (Focus.root root).visits isScope ∧
      ∀ focus : Focus, focus.visits isScope =
        (if focus.node.isCall then [.enter focus] else []) ++
          focus.children.flatMap (Focus.visits isScope) ++
          if focus.node.isCall && isScope focus then [.leave focus] else []) ∧
    ((events isScope root).Nodup ∧
      (∀ call, .enter call ∈ events isScope root ↔
        (Focus.root root).LeadsTo call ∧ call.node.isCall = true) ∧
      ∀ call, .leave call ∈ events isScope root ↔
        (Focus.root root).LeadsTo call ∧ call.node.isCall = true ∧ isScope call = true) ∧
    Nested isScope (events isScope root) ∧
    (∀ before scope inside after,
      events isScope root = before ++ .enter scope :: (inside ++ .leave scope :: after) →
        inside = scope.children.flatMap (Focus.visits isScope)) ∧
    (preorder [root] = (Focus.root root).subtree.map (·.node) ∧
      (∀ focus : Focus, focus.subtree = focus :: focus.children.flatMap Focus.subtree) ∧
      (Focus.root root).subtree.Nodup ∧
      ∀ focus, focus ∈ (Focus.root root).subtree ↔ (Focus.root root).LeadsTo focus) ∧
    (events isScope root).filterMap Event.entered? = (Focus.root root).subtree.filter (·.node.isCall) ∧
    ((events isScope root).filterMap Event.entered?).map (·.node) =
      (preorder [root]).filter Node.isCall := by
  have entered : (events isScope root).filterMap Event.entered? =
      (Focus.root root).subtree.filter (·.node.isCall) := by
    rw [events_eq, Focus.visits_entered]
  refine ⟨⟨events_eq root, Focus.visits_eq isScope⟩, ?_, ?_, ?_,
    ⟨preorder_eq root, Focus.subtree_eq, Focus.subtree_nodup _, fun _ => Focus.mem_subtree_iff⟩, entered, ?_⟩
  · simp only [events_eq, ← Focus.mem_subtree_iff]
    exact ⟨Focus.visits_nodup _, fun _ => Focus.enter_mem_visits_iff, fun _ => Focus.leave_mem_visits_iff⟩
  · rw [events_eq]
    exact Focus.visits_nested _
  · rw [events_eq]
    exact fun _ _ _ _ => Focus.visits_between
  · rw [entered, preorder_eq, List.filter_map]
    rfl

/-- A call in the place of the callee of another one. -/
def sampleNest : Node :=
  .plain .callExpression "" [.plain .callExpression "" []]

/-- The scope is the outer call, which the inner one cannot be told from by its kind or its text. -/
theorem walk_of_sample_nest : ∃ inner : Focus,
    (Focus.root sampleNest).children = [inner] ∧
      events (·.path.isEmpty) sampleNest =
        [] ++ .enter (.root sampleNest) :: ([.enter inner] ++ .leave (.root sampleNest) :: []) ∧
      [.enter inner] = (Focus.root sampleNest).children.flatMap (Focus.visits (·.path.isEmpty)) := by
  obtain ⟨⟨walked, recursion⟩, -, -, between, -⟩ := walks_follow_recursion (·.path.isEmpty) sampleNest
  have split : events (·.path.isEmpty) sampleNest =
      [] ++ .enter (.root sampleNest) ::
        ([.enter ⟨.plain .callExpression "" [], [⟨sampleNest, 0⟩]⟩] ++ .leave (.root sampleNest) :: []) := by
    rw [walked]
    simp [recursion, sampleNest, Focus.root, Focus.children, Node.plain, Node.isCall]
  exact ⟨_, rfl, split, between _ _ _ _ split⟩

end TestFlow.Syntax

import TestFlow.Syntax.Walk

/-! # Subtrees and the walk through them

A walk keeps what is left to do in a list. Told by recursion over the tree instead: the visits of a node
are its entering, the visits of its children from left to right, and its leaving. Positions tell which
node lies in the subtree of which: every position in a subtree ends in the position of its root.
-/

namespace TestFlow.Syntax

namespace Focus

theorem size_lt_of_mem_children {focus child : Focus} (member : child ∈ focus.children) :
    child.node.size < focus.node.size := by
  have among : child.node ∈ focus.node.children := by
    rw [← focus.children_map_node]
    exact List.mem_map_of_mem member
  have := Node.size_le_sizes among
  rw [Node.size_eq focus.node]
  omega

/-- Nodes are reached from their parents. -/
theorem induction {motive : Focus → Prop}
    (below : ∀ focus : Focus, (∀ child ∈ focus.children, motive child) → motive focus) (focus : Focus) :
    motive focus :=
  below focus fun child _ => induction below child
termination_by focus.node.size
decreasing_by exact size_lt_of_mem_children ‹_›

/-- A node and all nodes below it, in preorder. -/
def subtree (focus : Focus) : List Focus :=
  focus :: focus.children.attach.flatMap fun child => child.1.subtree
termination_by focus.node.size
decreasing_by exact size_lt_of_mem_children child.2

theorem subtree_eq (focus : Focus) : focus.subtree = focus :: focus.children.flatMap subtree := by
  rw [subtree, List.flatMap_subtype fun _ _ => rfl, List.unattach_attach]

theorem self_mem_subtree (focus : Focus) : focus ∈ focus.subtree := by
  rw [subtree_eq]
  exact List.mem_cons_self

theorem mem_subtree_of_child {focus child call : Focus} (member : child ∈ focus.children)
    (inChild : call ∈ child.subtree) : call ∈ focus.subtree := by
  rw [subtree_eq]
  exact List.mem_cons_of_mem _ (List.mem_flatMap.mpr ⟨child, member, inChild⟩)

/-- What a walk reports of a node and all nodes below it. -/
def visits (isScope : Focus → Bool) (focus : Focus) : List Event :=
  (if focus.node.isCall then [.enter focus] else []) ++
    (focus.children.attach.flatMap fun child => child.1.visits isScope) ++
    if focus.node.isCall && isScope focus then [.leave focus] else []
termination_by focus.node.size
decreasing_by exact size_lt_of_mem_children child.2

theorem visits_eq (isScope : Focus → Bool) (focus : Focus) :
    focus.visits isScope =
      (if focus.node.isCall then [.enter focus] else []) ++ focus.children.flatMap (visits isScope) ++
        if focus.node.isCall && isScope focus then [.leave focus] else [] := by
  rw [visits, List.flatMap_subtype fun _ _ => rfl, List.unattach_attach]

end Focus

section Walk

variable {isScope : Focus → Bool}

/-- A loop that works off each of some items before it goes on works off all of them. -/
theorem workOff_map {α β γ : Type} {loop : List α → List β} {entry : γ → α} {work : γ → List β}
    {items : List γ} (each : ∀ item ∈ items, ∀ rest, loop (entry item :: rest) = work item ++ loop rest)
    (rest : List α) : loop (items.map entry ++ rest) = items.flatMap work ++ loop rest := by
  induction items with
  | nil => rfl
  | cons item items ih =>
    rw [List.map_cons, List.cons_append, each item List.mem_cons_self,
      ih fun other member => each other (List.mem_cons_of_mem _ member), List.flatMap_cons,
      List.append_assoc]

/-- A walk works off a visit before it goes on with the rest. -/
theorem walk_visit (focus : Focus) (rest : List Pending) :
    walk isScope (.visit focus :: rest) = focus.visits isScope ++ walk isScope rest := by
  induction focus using Focus.induction generalizing rest with
  | below focus ih =>
    have expanded : walk isScope (Pending.expand isScope focus ++ rest) =
        focus.children.flatMap (Focus.visits isScope) ++
          ((if focus.node.isCall && isScope focus then [.leave focus] else []) ++
            walk isScope rest) := by
      rw [Pending.expand, List.append_assoc, workOff_map ih]
      split <;> simp [walk]
    rw [walk, expanded, Focus.visits_eq]
    split <;> simp

theorem events_eq (root : Node) : events isScope root = (Focus.root root).visits isScope := by
  rw [events, walk_visit, walk, List.append_nil]

end Walk

/-! ## Entering and leaving -/

theorem exists_of_append_split {α : Type} {front back before after : List α} {item : α}
    (split : front ++ back = before ++ item :: after) :
    (∃ rest, front = before ++ item :: rest) ∨
      ∃ early, before = front ++ early ∧ back = early ++ item :: after := by
  rcases List.append_eq_append_iff.mp split with ⟨early, reached, behind⟩ | ⟨inside, reached, behind⟩
  · exact .inr ⟨early, reached, behind⟩
  · cases inside with
    | nil => exact .inr ⟨[], by simp [reached], behind.symm⟩
    | cons first rest =>
      obtain ⟨rfl, -⟩ := List.cons.inj behind
      exact .inl ⟨rest, reached⟩

theorem exists_of_flatMap_split {α β : Type} {items : List α} {parts : α → List β} {before after : List β}
    {part : β} (split : items.flatMap parts = before ++ part :: after) :
    ∃ item ∈ items, ∃ skipped early rest,
      before = skipped ++ early ∧ parts item = early ++ part :: rest := by
  induction items generalizing before with
  | nil => simp at split
  | cons item items ih =>
    rw [List.flatMap_cons] at split
    rcases exists_of_append_split split with ⟨rest, here⟩ | ⟨behind, reached, later⟩
    · exact ⟨item, List.mem_cons_self, [], before, rest, rfl, here⟩
    · obtain ⟨other, member, skipped, early, rest, split, found⟩ := ih later
      refine ⟨other, List.mem_cons_of_mem _ member, parts item ++ skipped, early, rest, ?_, found⟩
      rw [reached, split, List.append_assoc]

/-- A walk leaves a node of a subtree when it has entered the node and has been through all of its
children. -/
theorem Focus.visits_before_leave {isScope : Focus → Bool} {focus scope : Focus} {before after : List Event}
    (split : focus.visits isScope = before ++ .leave scope :: after) :
    scope ∈ focus.subtree ∧ scope.node.isCall = true ∧ isScope scope = true ∧
      ∃ early, before = early ++ .enter scope :: scope.children.flatMap (visits isScope) := by
  induction focus using Focus.induction generalizing before after with
  | below focus ih =>
    have among {before after : List Event}
        (split : focus.children.flatMap (visits isScope) = before ++ .leave scope :: after) :
        scope ∈ focus.subtree ∧ scope.node.isCall = true ∧ isScope scope = true ∧
          ∃ early, before = early ++ .enter scope :: scope.children.flatMap (visits isScope) := by
      obtain ⟨child, member, skipped, inside, rest, reached, found⟩ := exists_of_flatMap_split split
      obtain ⟨inChild, isCall, opens, early, entered⟩ := ih child member found
      refine ⟨mem_subtree_of_child member inChild, isCall, opens, skipped ++ early, ?_⟩
      rw [reached, entered, List.append_assoc]
    rw [visits_eq] at split
    cases isCall : focus.node.isCall with
    | false => exact among (by simpa [isCall] using split)
    | true =>
      simp only [isCall, if_true, Bool.true_and, List.cons_append, List.nil_append] at split
      cases before with
      | nil => cases (List.cons.inj split).1
      | cons first before =>
        obtain ⟨rfl, below⟩ := List.cons.inj split
        -- The walk leaves a node further down, or it leaves this one and is done.
        rcases exists_of_append_split below with ⟨rest, inside⟩ | ⟨early, reached, leaving⟩
        · obtain ⟨inTree, isCall, opens, early, entered⟩ := among inside
          exact ⟨inTree, isCall, opens, .enter focus :: early, by rw [entered, List.cons_append]⟩
        · cases opens : isScope focus with
          | false => simp [opens] at leaving
          | true =>
            obtain ⟨rfl, rfl⟩ : early = [] ∧ scope = focus := by
              cases early <;> simp_all
            refine ⟨self_mem_subtree scope, isCall, opens, [], ?_⟩
            rw [reached, List.append_nil, List.nil_append]

/-- A walk leaves every scope of a subtree. -/
theorem Focus.leave_mem_visits {isScope : Focus → Bool} {focus scope : Focus} (member : scope ∈ focus.subtree)
    (isCall : scope.node.isCall = true) (opens : isScope scope = true) :
    .leave scope ∈ focus.visits isScope := by
  induction focus using Focus.induction with
  | below focus ih =>
    rw [subtree_eq, List.mem_cons, List.mem_flatMap] at member
    rw [visits_eq]
    rcases member with rfl | ⟨child, among, inChild⟩
    · simp [isCall, opens]
    · have below := List.mem_flatMap.mpr ⟨child, among, ih child among inChild⟩
      exact List.mem_append_left _ (List.mem_append_right _ below)

/-! ## Positions -/

namespace Focus

variable {focus above child other call : Focus}

/-- Where a node stands: its index among its siblings and those of all nodes above it, innermost first. -/
def position (focus : Focus) : List Nat :=
  focus.path.map (·.index)

/-- Whether a node stands in the subtree of another one of the same tree. -/
def isWithin (focus above : Focus) : Bool :=
  above.position.isSuffixOf focus.position

theorem isWithin_iff : focus.isWithin above = true ↔ above.position <:+ focus.position :=
  List.isSuffixOf_iff_suffix

theorem eq_of_getElem? {index : Nat} (found : focus.children[index]? = some child) :
    child = ⟨child.node, ⟨focus.node, index⟩ :: focus.path⟩ := by
  simp only [children, List.getElem?_mapIdx, Option.map_eq_some_iff] at found
  obtain ⟨node, -, rfl⟩ := found
  rfl

theorem position_of_getElem? {index : Nat} (found : focus.children[index]? = some child) :
    child.position = index :: focus.position := by
  rw [eq_of_getElem? found]
  rfl

theorem exists_of_mem_children (member : child ∈ focus.children) :
    ∃ index, focus.children[index]? = some child ∧ child.position = index :: focus.position := by
  obtain ⟨index, found⟩ := List.getElem?_of_mem member
  exact ⟨index, found, position_of_getElem? found⟩

theorem isWithin_self : focus.isWithin focus = true :=
  isWithin_iff.mpr List.suffix_rfl

theorem isWithin_trans (low : call.isWithin focus = true) (high : focus.isWithin above = true) :
    call.isWithin above = true :=
  isWithin_iff.mpr ((isWithin_iff.mp high).trans (isWithin_iff.mp low))

theorem isWithin_of_mem_children (member : child ∈ focus.children) : child.isWithin focus = true := by
  obtain ⟨index, -, stands⟩ := exists_of_mem_children member
  rw [isWithin_iff, stands]
  exact List.suffix_cons _ _

/-- No node stands within its own child. -/
theorem not_isWithin_child (member : child ∈ focus.children) : focus.isWithin child = false := by
  obtain ⟨index, -, stands⟩ := exists_of_mem_children member
  rw [← Bool.not_eq_true, isWithin_iff, stands]
  intro suffix
  have := suffix.length_le
  rw [List.length_cons] at this
  omega

/-- What stands in a subtree stands within its root. -/
theorem isWithin_of_mem_subtree (member : call ∈ focus.subtree) : call.isWithin focus = true := by
  induction focus using Focus.induction with
  | below focus ih =>
    rw [subtree_eq, List.mem_cons, List.mem_flatMap] at member
    rcases member with rfl | ⟨child, among, inChild⟩
    · exact isWithin_self
    · exact isWithin_trans (ih child among inChild) (isWithin_of_mem_children among)

/-- No node is among those below it. -/
theorem not_mem_below (focus : Focus) : focus ∉ focus.children.flatMap subtree := by
  intro inside
  obtain ⟨child, member, inChild⟩ := List.mem_flatMap.mp inside
  have := not_isWithin_child member
  rw [isWithin_of_mem_subtree inChild] at this
  cases this

/-- Two nodes that a third one stands within stand one within the other. -/
theorem isWithin_or (low : call.isWithin focus = true) (high : call.isWithin above = true) :
    focus.isWithin above = true ∨ above.isWithin focus = true := by
  simp only [isWithin_iff] at low high ⊢
  exact (List.suffix_or_suffix_of_suffix low high).symm

/-- A node stands within one child at most. -/
theorem index_eq_of_isWithin {index place : Nat} (first : focus.children[index]? = some child)
    (second : focus.children[place]? = some other) (low : call.isWithin child = true)
    (high : call.isWithin other = true) : index = place := by
  rw [isWithin_iff, position_of_getElem? first] at low
  rw [isWithin_iff, position_of_getElem? second] at high
  have same : index :: focus.position = place :: focus.position := by
    rcases List.suffix_or_suffix_of_suffix low high with inner | inner
    · exact inner.eq_of_length rfl
    · exact (inner.eq_of_length rfl).symm
  exact (List.cons.inj same).1

/-- Whether no node stands within both of two. -/
def Apart (first second : Focus) : Prop :=
  ∀ call : Focus, call.isWithin first = true → call.isWithin second = false

theorem children_apart (focus : Focus) : focus.children.Pairwise Apart := by
  rw [List.pairwise_iff_getElem]
  intro index place bound further before call low
  rw [← Bool.not_eq_true]
  intro high
  have := index_eq_of_isWithin (List.getElem?_eq_getElem bound) (List.getElem?_eq_getElem further) low high
  omega

theorem children_nodup (focus : Focus) : focus.children.Nodup := by
  refine focus.children_apart.imp ?_
  rintro first second apart rfl
  have away := apart first isWithin_self
  rw [isWithin_self] at away
  cases away

/-- In one tree, standing within a node is being in its subtree. -/
theorem isWithin_iff_mem_subtree (call_mem : call ∈ focus.subtree) (above_mem : above ∈ focus.subtree) :
    call.isWithin above = true ↔ call ∈ above.subtree := by
  refine ⟨fun within => ?_, isWithin_of_mem_subtree⟩
  induction focus using Focus.induction with
  | below focus ih =>
    have whole := call_mem
    rw [subtree_eq, List.mem_cons, List.mem_flatMap] at call_mem above_mem
    rcases above_mem with rfl | ⟨child, among, inChild⟩
    · exact whole
    · have withinChild := isWithin_trans within (isWithin_of_mem_subtree inChild)
      rcases call_mem with rfl | ⟨other, amongToo, inOther⟩
      · rw [not_isWithin_child among] at withinChild
        cases withinChild
      · obtain ⟨index, found, -⟩ := exists_of_mem_children among
        obtain ⟨place, met, -⟩ := exists_of_mem_children amongToo
        obtain rfl := index_eq_of_isWithin found met withinChild (isWithin_of_mem_subtree inOther)
        obtain rfl := Option.some.inj (found.symm.trans met)
        exact ih child among inOther inChild

end Focus

end TestFlow.Syntax

import Mathlib.Data.List.Forall2
import TestFlow.Proofs.Syntax.Subtree
import TestFlow.Syntax.Fault
import TestFlow.Syntax.Literal

/-! # Trees without some of their comments

A tree is thinned when comments that stand loose in it are left out, any number of them and anywhere but in
strings. No reader of a tree tells the difference: what it reads of a node in place, of the node's children
and of its way up is the same, although children behind a comment move up.
-/

namespace TestFlow.Syntax

/-- Whether a node is a comment that its parent knows by no name, with nothing below it and no mark of an
error. -/
def Node.isLooseComment (node : Node) : Bool :=
  node.kind = .comment && node.children.isEmpty && node.field.isNone && !node.isError && !node.isMissing &&
    !node.hasError

/-- Lists in the same order, of which the second may lack loose comments, unless they stand in a string. -/
inductive Siblings {α : Type} (node : α → Node) (related : α → α → Prop) : Bool → List α → List α → Prop where
  | nil {inString : Bool} : Siblings node related inString [] []
  | kept {inString : Bool} {full thin : α} {fulls thins : List α} (same : related full thin)
      (rest : Siblings node related inString fulls thins) :
      Siblings node related inString (full :: fulls) (thin :: thins)
  | dropped {comment : α} {fulls thins : List α} (loose : (node comment).isLooseComment = true)
      (rest : Siblings node related false fulls thins) :
      Siblings node related false (comment :: fulls) thins

/-- The second tree is the first one without some of its loose comments. -/
inductive Thinned : Node → Node → Prop where
  | node {full : Node} {children : List Node}
      (siblings : Siblings id Thinned full.isStringLike full.children children) :
      Thinned full { full with children }

namespace Siblings

variable {α β : Type} {node : α → Node} {related : α → α → Prop} {inString : Bool} {fulls thins : List α}

/-- A reader that tells no related entries apart and that skips loose comments reads the same. -/
theorem filterMap_eq (siblings : Siblings node related inString fulls thins) (read : α → Option β)
    (same : ∀ full thin, related full thin → read thin = read full)
    (skips : inString = false → ∀ entry, (node entry).isLooseComment → read entry = none) :
    thins.filterMap read = fulls.filterMap read := by
  induction siblings with
  | nil => rfl
  | kept related _ ih => rw [List.filterMap_cons, List.filterMap_cons, same _ _ related, ih skips]
  | dropped loose _ ih => rw [List.filterMap_cons, skips rfl _ loose, ih skips]

/-- What a selection that skips loose comments picks is related one to one. -/
theorem forall₂_filter (siblings : Siblings node related inString fulls thins) (select : α → Bool)
    (same : ∀ full thin, related full thin → select thin = select full)
    (skips : inString = false → ∀ entry, (node entry).isLooseComment → select entry = false) :
    List.Forall₂ related (fulls.filter select) (thins.filter select) := by
  induction siblings with
  | nil => exact .nil
  | kept related _ ih =>
    rw [List.filter_cons, List.filter_cons, same _ _ related]
    split
    · exact .cons related (ih skips)
    · exact ih skips
  | dropped loose _ ih =>
    rw [List.filter_cons, skips rfl _ loose]
    exact ih skips

theorem flatMap_eq (siblings : Siblings node related inString fulls thins) (read : α → List β)
    (same : ∀ full ∈ fulls, ∀ thin, related full thin → read thin = read full)
    (skips : ∀ entry, (node entry).isLooseComment → read entry = []) :
    thins.flatMap read = fulls.flatMap read := by
  induction siblings with
  | nil => rfl
  | kept related _ ih =>
    rw [List.flatMap_cons, List.flatMap_cons, same _ List.mem_cons_self _ related,
      ih fun full member => same full (List.mem_cons_of_mem _ member)]
  | dropped loose _ ih =>
    rw [List.flatMap_cons, skips _ loose, List.nil_append,
      ih fun full member => same full (List.mem_cons_of_mem _ member)]

/-- Lists that lack no comment of a string may lack comments all the same. -/
theorem relax (siblings : Siblings node related inString fulls thins) :
    Siblings node related false fulls thins := by
  induction siblings with
  | nil => exact .nil
  | kept related _ ih => exact .kept related ih
  | dropped loose _ ih => exact .dropped loose ih

theorem refl {entries : List α} (each : ∀ entry ∈ entries, related entry entry) :
    Siblings node related inString entries entries := by
  induction entries with
  | nil => exact .nil
  | cons entry rest ih =>
    have later := ih fun other member => each other (List.mem_cons_of_mem _ member)
    exact .kept (each entry List.mem_cons_self) later

theorem append {moreFulls moreThins : List α} (siblings : Siblings node related inString fulls thins)
    (more : Siblings node related inString moreFulls moreThins) :
    Siblings node related inString (fulls ++ moreFulls) (thins ++ moreThins) := by
  induction siblings with
  | nil => exact more
  | kept related _ ih => exact .kept related (ih more)
  | dropped loose _ ih => exact .dropped loose (ih more)

end Siblings

/-- No comment has to be left out. -/
theorem Thinned.refl (node : Node) : Thinned node node := by
  have children : Siblings id Thinned node.isStringLike node.children node.children :=
    .refl fun child _ => Thinned.refl child
  have thinned := Thinned.node children
  cases node
  exact thinned
termination_by node.size
decreasing_by
  have := Node.size_le_sizes ‹_›
  rw [Node.size_eq node]
  omega

/-! ## Readers that do not see loose comments -/

/-- A reader of nodes that reads the same once a tree is thinned. -/
def Blind {β : Type} (read : Node → β) : Prop :=
  ∀ full thin, Thinned full thin → read thin = read full

section Node

variable {β : Type} {full thin : Node}

/-- What looks at no children sees none missing. -/
theorem Blind.of_surface {read : Node → β}
    (surface : ∀ (node : Node) (children : List Node), read { node with children } = read node) :
    Blind read := by
  rintro full _ ⟨-⟩
  exact surface full _

theorem blind_kind : Blind Node.kind := .of_surface fun _ _ => rfl

theorem blind_field : Blind Node.field := .of_surface fun _ _ => rfl

theorem blind_named : Blind Node.named := .of_surface fun _ _ => rfl

theorem blind_text : Blind Node.text := .of_surface fun _ _ => rfl

theorem blind_isBad : Blind Node.isBad := .of_surface fun _ _ => rfl

theorem blind_hasError : Blind Node.hasError := .of_surface fun _ _ => rfl

theorem blind_fault : Blind Node.fault := .of_surface fun _ _ => rfl

theorem blind_isCall : Blind Node.isCall := .of_surface fun _ _ => rfl

theorem blind_isStringLike : Blind Node.isStringLike := .of_surface fun _ _ => rfl

theorem blind_literalPart : Blind Node.literalPart := .of_surface fun _ _ => rfl

theorem Thinned.siblings (thinned : Thinned full thin) :
    Siblings id Thinned full.isStringLike full.children thin.children := by
  cases thinned with
  | node siblings => exact siblings

/-- A loose comment is no more than its kind says. -/
theorem Node.isLooseComment_iff {node : Node} :
    node.isLooseComment = true ↔ node.kind = .comment ∧ node.children = [] ∧ node.field = none ∧
      node.isBad = false ∧ node.hasError = false := by
  simp only [isLooseComment, isBad, Bool.and_eq_true, decide_eq_true_eq, List.isEmpty_iff,
    Option.isNone_iff_eq_none, Bool.not_eq_true', Bool.or_eq_false_iff, and_assoc]

theorem cases_of_rel {first second : Option Node} (rel : Option.Rel Thinned first second) :
    first = none ∧ second = none ∨
      ∃ full thin, first = some full ∧ second = some thin ∧ Thinned full thin := by
  cases rel with
  | none => exact .inl ⟨rfl, rfl⟩
  | some thinned => exact .inr ⟨_, _, rfl, rfl, thinned⟩

theorem rel_getElem? {fulls thins : List Node} (all : List.Forall₂ Thinned fulls thins) (index : Nat) :
    Option.Rel Thinned fulls[index]? thins[index]? := by
  induction all generalizing index with
  | nil => exact .none
  | cons thinned _ ih =>
    cases index with
    | zero => exact .some thinned
    | succ index => exact ih index

theorem Thinned.child? (thinned : Thinned full thin) (field : Field) :
    Option.Rel Thinned (full.child? field) (thin.child? field) := by
  have picked := thinned.siblings.forall₂_filter (fun child => child.field = some field)
    (fun _ _ related => by rw [blind_field _ _ related])
    (fun _ child loose => by
      obtain ⟨-, -, noField, -⟩ := Node.isLooseComment_iff.mp loose
      exact decide_eq_false (by simp [show child.field = none from noField]))
  rw [Node.child?, Node.child?, ← List.head?_filter, ← List.head?_filter, List.head?_eq_getElem?,
    List.head?_eq_getElem?]
  exact rel_getElem? picked 0

theorem Blind.child?_bind {read : Node → Option β} (blind : Blind read) (field : Field) :
    Blind fun node => (node.child? field).bind read := by
  intro full thin thinned
  rcases cases_of_rel (thinned.child? field) with ⟨found, foundToo⟩ | ⟨child, left, found, foundToo, related⟩
  · simp only [found, foundToo, Option.bind_none]
  · simp only [found, foundToo, Option.bind_some, blind _ _ related]

theorem Blind.child?_map {read : Node → β} (blind : Blind read) (field : Field) :
    Blind fun node => (node.child? field).map read := by
  intro full thin thinned
  rcases cases_of_rel (thinned.child? field) with ⟨found, foundToo⟩ | ⟨child, left, found, foundToo, related⟩
  · simp only [found, foundToo, Option.map_none]
  · simp only [found, foundToo, Option.map_some, blind _ _ related]

/-! ## Literals and calls -/

theorem blind_memberProperty? : Blind Node.memberProperty? :=
  blind_text.child?_map .property

theorem blind_fieldText (field : Field) : Blind fun node => node.fieldText field := by
  intro full thin thinned
  have same := blind_text.child?_map field full thin thinned
  exact congrArg (Option.getD · "") same

theorem blind_regexText : Blind Node.regexText := by
  intro full thin thinned
  have pattern := blind_fieldText .pattern full thin thinned
  have flags := blind_fieldText .flags full thin thinned
  simp only at pattern flags
  rw [Node.regexText, pattern, flags, ← Node.regexText]

/-- A string keeps all of its parts. -/
theorem Thinned.parts (thinned : Thinned full thin) (string : full.isStringLike = true) :
    List.Forall₂ Thinned full.namedChildren thin.namedChildren :=
  thinned.siblings.forall₂_filter Node.named blind_named fun other => by simp [string] at other

theorem map_eq_of_forall₂ {fulls thins : List Node} (all : List.Forall₂ Thinned fulls thins)
    {read : Node → β} (blind : Blind read) : thins.map read = fulls.map read := by
  induction all with
  | nil => rfl
  | cons thinned _ ih => rw [List.map_cons, List.map_cons, blind _ _ thinned, ih]

theorem blind_stringValue? : Blind Node.stringValue? := by
  intro full thin thinned
  rw [Node.stringValue?, Node.stringValue?, blind_isStringLike _ _ thinned]
  cases string : full.isStringLike with
  | false => rfl
  | true =>
    have parts := thinned.parts string
    have kinds := map_eq_of_forall₂ parts blind_kind
    have computed : (thin.namedChildren.any fun part => part.kind = .templateSubstitution) =
        full.namedChildren.any fun part => part.kind = .templateSubstitution := by
      have mapped (node : Node) : (node.namedChildren.any fun part => part.kind = .templateSubstitution) =
          (node.namedChildren.map Node.kind).any fun kind => kind = .templateSubstitution := by
        rw [List.any_map]
        rfl
      rw [mapped, mapped, kinds]
    rw [computed, map_eq_of_forall₂ parts blind_literalPart]

theorem blind_keyName? : Blind Node.keyName? := by
  intro full thin thinned
  rw [Node.keyName?, blind_kind _ _ thinned, blind_text _ _ thinned, blind_stringValue? _ _ thinned,
    ← Node.keyName?]

theorem blind_isPairNamed (name : String) : Blind (Node.isPairNamed name) := by
  intro full thin thinned
  have key := blind_keyName?.child?_bind .key full thin thinned
  simp only at key
  rw [Node.isPairNamed, blind_kind _ _ thinned, key, ← Node.isPairNamed]

theorem Node.not_isPairNamed_of_loose {name : String} {node : Node} (loose : node.isLooseComment = true) :
    node.isPairNamed name = false := by
  obtain ⟨comment, -⟩ := isLooseComment_iff.mp loose
  simp [isPairNamed, comment]

theorem Thinned.objectProperty? (thinned : Thinned full thin) (name : String) :
    Option.Rel Thinned (full.objectProperty? name) (thin.objectProperty? name) := by
  have picked := thinned.siblings.forall₂_filter (fun child => child.named && child.isPairNamed name)
    (fun _ _ related => by rw [blind_named _ _ related, blind_isPairNamed name _ _ related])
    (fun _ child loose => by
      have notPair : child.isPairNamed name = false := Node.not_isPairNamed_of_loose loose
      rw [notPair, Bool.and_false])
  have found (node : Node) : node.namedChildren.find? (Node.isPairNamed name) =
      (node.children.filter fun child => child.named && child.isPairNamed name)[0]? := by
    rw [← List.head?_eq_getElem?, Node.namedChildren, ← List.head?_filter, List.filter_filter]
    simp only [Bool.and_comm]
  rw [Node.objectProperty?, Node.objectProperty?, found, found]
  rcases cases_of_rel (rel_getElem? picked 0) with ⟨met, metToo⟩ | ⟨pair, left, met, metToo, related⟩
  · rw [met, metToo]
    exact .none
  · rw [met, metToo]
    exact related.child? .value

/-- Comments are no arguments. -/
theorem Thinned.callArguments (thinned : Thinned full thin) :
    List.Forall₂ Thinned full.callArguments thin.callArguments := by
  rcases cases_of_rel (thinned.child? .arguments) with
    ⟨found, foundToo⟩ | ⟨list, left, found, foundToo, related⟩
  · simp only [Node.callArguments, found, foundToo]
    exact .nil
  · simp only [Node.callArguments, found, foundToo, blind_kind _ _ related]
    split
    · simp only [Node.namedChildren, List.filter_filter]
      apply related.siblings.forall₂_filter
      · intro full thin same
        rw [blind_kind _ _ same, blind_named _ _ same]
      · intro _ child loose
        obtain ⟨comment, -⟩ := Node.isLooseComment_iff.mp loose
        simp [show child.kind = .comment from comment]
    · exact .nil

/-- What an argument is read as. -/
theorem Blind.argument {read : Node → Option β} (blind : Blind read) (index : Nat) :
    Blind fun call => call.callArguments[index]?.bind read := by
  intro full thin thinned
  rcases cases_of_rel (rel_getElem? thinned.callArguments index) with
    ⟨found, foundToo⟩ | ⟨argument, left, found, foundToo, related⟩
  · simp only [found, foundToo, Option.bind_none]
  · simp only [found, foundToo, Option.bind_some, blind _ _ related]

end Node

/-! ## Faults -/

/-- Thinning takes no bad node from a forest. -/
theorem Siblings.badNodes {fulls thins : List Node} (siblings : Siblings id Thinned false fulls thins) :
    ((preorder thins).filter Node.isBad).map Node.fault =
      ((preorder fulls).filter Node.isBad).map Node.fault := by
  -- along the full forest: a dropped comment leaves its rest to the same thinned forest
  induction fulls using preorder.induct generalizing thins with
  | case1 =>
    cases siblings
    rfl
  | case2 full rest ih =>
    cases siblings with
    | @kept _ _ thin _ _ thinned siblings =>
      have below := ih (thinned.siblings.relax.append siblings)
      rw [preorder, preorder, List.filter_cons, List.filter_cons, blind_isBad _ _ thinned]
      split
      · rw [List.map_cons, List.map_cons, blind_fault _ _ thinned, below]
      · exact below
    | dropped loose siblings =>
      obtain ⟨-, leaf, -, sound, -⟩ := Node.isLooseComment_iff.mp loose
      have below : Siblings id Thinned false (full.children ++ rest) thins := by
        rw [show full.children = [] from leaf]
        exact siblings
      rw [preorder, List.filter_cons, show full.isBad = false from sound, ih below]
      rfl

theorem blind_fault? : Blind Node.fault? := by
  intro full thin thinned
  have whole : Siblings id Thinned false [full] [thin] := .kept thinned .nil
  have first (root : Node) : root.firstBad?.map Node.fault =
      (((preorder [root]).filter Node.isBad).map Node.fault).head? := by
    rw [Node.firstBad?, List.head?_map, List.head?_filter]
  have same : thin.firstBad?.map Node.fault = full.firstBad?.map Node.fault := by
    rw [first, first, whole.badNodes]
  have reported (root : Node) :
      (root.firstBad?.getD root).fault = (root.firstBad?.map Node.fault).getD root.fault := by
    cases root.firstBad? <;> rfl
  rw [Node.fault?, Node.fault?, blind_hasError _ _ thinned, reported, reported, same,
    blind_fault _ _ thinned]

/-! ## Places in a tree -/

/-- A step up to a thinned parent, from a child that it knows by the same names. -/
structure ThinnedFrame (full thin : Frame) : Prop where
  parent : Thinned full.parent thin.parent
  isField : ∀ field, thin.isField field = full.isField field

/-- A thinned node in a thinned tree. -/
structure ThinnedFocus (full thin : Focus) : Prop where
  node : Thinned full.node thin.node
  path : List.Forall₂ ThinnedFrame full.path thin.path

/-- A child is the first one of a name if it has the name and no child before it does. -/
theorem Node.childIndex?_eq_some_length {parent child : Node} {before after : List Node} {field : Field}
    (split : parent.children = before ++ child :: after) :
    parent.childIndex? field = some before.length ↔
      field ∉ before.filterMap Node.field ∧ child.field = some field := by
  rw [childIndex?, split]
  clear split
  induction before with
  | nil => by_cases named : child.field = some field <;> simp [List.findIdx?_cons, named]
  | cons head rest ih =>
    by_cases named : head.field = some field
    · simp [List.findIdx?_cons, named]
    · have later : field ∉ (head :: rest).filterMap Node.field ↔ field ∉ rest.filterMap Node.field := by
        simp [List.mem_filterMap, named]
      rw [later, ← ih]
      simp [List.findIdx?_cons, named]

/-- Children of a thinned parent stand in thinned places, whatever is left out before them: a child known by
a name is the first one of that name as long as the same names come before it. -/
theorem Siblings.places {full thin : Focus} (thinned : ThinnedFocus full thin) {inString : Bool}
    {fulls thins : List Node} (siblings : Siblings id Thinned inString fulls thins)
    (before thinBefore : List Node) (whole : full.node.children = before ++ fulls)
    (left : thin.node.children = thinBefore ++ thins)
    (passed : thinBefore.filterMap Node.field = before.filterMap Node.field) :
    Siblings Focus.node ThinnedFocus inString
      (fulls.mapIdx fun index child => ⟨child, ⟨full.node, before.length + index⟩ :: full.path⟩)
      (thins.mapIdx fun index child => ⟨child, ⟨thin.node, thinBefore.length + index⟩ :: thin.path⟩) := by
  -- what has been passed grows on both sides, by one child or by a comment that has no name
  induction siblings generalizing before thinBefore with
  | nil => exact .nil
  | @kept _ child leftChild fulls thins related _ ih =>
    have isField (field : Field) : Frame.isField ⟨thin.node, thinBefore.length⟩ field =
        Frame.isField ⟨full.node, before.length⟩ field := by
      rw [Frame.isField, Frame.isField, decide_eq_decide, Node.childIndex?_eq_some_length left,
        Node.childIndex?_eq_some_length whole, passed, blind_field _ _ related]
    have here : ThinnedFocus ⟨child, ⟨full.node, before.length⟩ :: full.path⟩
        ⟨leftChild, ⟨thin.node, thinBefore.length⟩ :: thin.path⟩ :=
      ⟨related, .cons ⟨thinned.node, isField⟩ thinned.path⟩
    have later := ih (before ++ [child]) (thinBefore ++ [leftChild])
      (by rw [whole, List.append_assoc, List.singleton_append])
      (by rw [left, List.append_assoc, List.singleton_append])
      (by rw [List.filterMap_append, List.filterMap_append, passed, List.filterMap_cons,
        List.filterMap_cons, blind_field _ _ related])
    simp only [List.length_append, List.length_singleton, Nat.add_assoc, Nat.add_comm 1] at later
    rw [List.mapIdx_cons, List.mapIdx_cons]
    exact .kept here later
  | @dropped comment fulls thins loose _ ih =>
    obtain ⟨-, -, noField, -⟩ := Node.isLooseComment_iff.mp loose
    have later := ih (before ++ [comment]) thinBefore
      (by rw [whole, List.append_assoc, List.singleton_append]) left
      (by rw [List.filterMap_append, passed, List.filterMap_cons, show comment.field = none from noField,
        List.filterMap_nil, List.append_nil])
    simp only [List.length_append, List.length_singleton, Nat.add_assoc, Nat.add_comm 1] at later
    rw [List.mapIdx_cons]
    exact .dropped loose later

theorem ThinnedFocus.children {full thin : Focus} (thinned : ThinnedFocus full thin) :
    Siblings Focus.node ThinnedFocus full.node.isStringLike full.children thin.children := by
  have places := Siblings.places thinned thinned.node.siblings [] [] rfl rfl rfl
  simp only [List.length_nil, Nat.zero_add] at places
  exact places

theorem ThinnedFocus.root {full thin : Node} (thinned : Thinned full thin) :
    ThinnedFocus (.root full) (.root thin) :=
  ⟨thinned, .nil⟩

/-! ## The walk -/

/-- Comments have no events, and a walk that tells no thinned nodes apart reports the same of the rest. -/
theorem ThinnedFocus.visits_map {isScope : Node → Bool} (blind : Blind isScope) {β : Type} {read : Event → β}
    (same : ∀ full thin, ThinnedFocus full thin →
      read (.enter thin) = read (.enter full) ∧ read (.leave thin) = read (.leave full))
    {full thin : Focus} (thinned : ThinnedFocus full thin) :
    (thin.visits isScope).map read = (full.visits isScope).map read := by
  induction full using Focus.induction generalizing thin with
  | below full ih =>
    have silent (focus : Focus) (loose : focus.node.isLooseComment = true) :
        (focus.visits isScope).map read = [] := by
      obtain ⟨comment, leaf, -⟩ := Node.isLooseComment_iff.mp loose
      rw [Focus.visits_eq]
      simp [Focus.children, Node.isCall, comment, leaf]
    have below := thinned.children.flatMap_eq (fun child => (child.visits isScope).map read)
      (fun child member left related => ih child member related) silent
    obtain ⟨entered, leaving⟩ := same full thin thinned
    rw [Focus.visits_eq, Focus.visits_eq]
    simp only [List.map_append, List.map_flatMap, below, blind_isCall _ _ thinned.node,
      blind _ _ thinned.node]
    congr 1
    · congr 1
      split <;> simp [entered]
    · split <;> simp [leaving]

end TestFlow.Syntax

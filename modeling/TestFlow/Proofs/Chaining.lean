import Mathlib.Algebra.Ring.Parity
import TestFlow.Action.Predicate
import TestFlow.Proofs.Syntax.Kinship

/-! # What the scan for a predicate finds

A chain is told here as a path: from a call up through parentheses and through members of what is below
them, to a member that is the callee of another call. The scan follows the path for as long as there is
one, and the call at its end is the predicate. Read downward, the call is one from whose callee a descent
through objects of members and into parentheses comes to the inner call.
-/

namespace TestFlow

open Syntax

/-- A chain goes on from a node to its parent if that is a pair of parentheses or a member of the node. -/
def Links (inner outer : Focus) : Prop :=
  inner.parent? = some outer ∧
    (outer.node.kind = .parenthesizedExpression ∨
      outer.node.kind = .memberExpression ∧ outer.child? .object = some inner)

/-- A chain from a node up to another one, with the nodes that it goes on to. -/
inductive ChainPath : Focus → List Focus → Focus → Prop where
  | nil (inner : Focus) : ChainPath inner [] inner
  | cons {inner outer top : Focus} {links : List Focus} (link : Links inner outer)
      (rest : ChainPath outer links top) : ChainPath inner (outer :: links) top

/-- A member with a name is the callee of a call. -/
structure Calls (callee call : Focus) (name : String) : Prop where
  isMember : callee.node.kind = .memberExpression
  named : callee.node.memberProperty? = some name
  nonempty : name ≠ ""
  isCall : call.node.kind = .callExpression
  isCallee : call.child? .function = some callee

/-- Whether a link of a chain is the member `not`. -/
def isNegation (link : Focus) : Bool :=
  link.node.kind = .memberExpression && link.node.memberProperty? = some "not"

/-- The number of the members `not` among the links of a chain. -/
def negations (links : List Focus) : Nat :=
  links.countP isNegation

theorem odd_negations_cons (link : Focus) (links : List Focus) :
    decide (Odd (negations (link :: links))) = (isNegation link != decide (Odd (negations links))) := by
  rw [negations, List.countP_cons, ← negations]
  by_cases odd : Odd (negations links) <;> cases isNegation link <;> simp [odd, Nat.odd_add_one]

/-- A step down a chain: to the object of a member, or into parentheses. -/
def Descends (outer inner : Focus) : Prop :=
  outer.node.kind = .memberExpression ∧ outer.child? .object = some inner ∨
    outer.node.kind = .parenthesizedExpression ∧ inner ∈ outer.children

section

variable {root : Syntax.Node} {inner outer callee call : Focus} {links : List Focus} {name : String}

/-! ## Up and down -/

theorem Descends.mem_children (down : Descends outer inner) : inner ∈ outer.children := by
  rcases down with ⟨-, object⟩ | ⟨-, member⟩
  · exact Focus.mem_children_of_child? object
  · exact member

theorem Descends.isLink (down : Descends outer inner) : Links inner outer := by
  refine ⟨Focus.parent?_of_mem_children down.mem_children, ?_⟩
  rcases down with object | ⟨parentheses, -⟩
  · exact .inr object
  · exact .inl parentheses

theorem Links.descends (inTree : inner ∈ (Focus.root root).subtree) (link : Links inner outer) :
    Descends outer inner ∧ outer ∈ (Focus.root root).subtree := by
  obtain ⟨member, outerInTree⟩ := Focus.mem_children_of_parent? inTree link.1
  rcases link.2 with parentheses | object
  · exact ⟨.inr ⟨parentheses, member⟩, outerInTree⟩
  · exact ⟨.inl object, outerInTree⟩

/-- A chain is a descent read upward. -/
theorem exists_chainPath_iff (inTree : inner ∈ (Focus.root root).subtree) :
    (∃ links, ChainPath inner links outer) ↔ Relation.ReflTransGen Descends outer inner := by
  constructor
  · rintro ⟨links, path⟩
    induction path with
    | nil => exact .refl
    | cons link _ ih =>
      obtain ⟨down, outerInTree⟩ := link.descends inTree
      exact .tail (ih outerInTree) down
  · intro descent
    clear inTree
    induction descent with
    | refl => exact ⟨[], .nil outer⟩
    | tail _ down ih =>
      obtain ⟨links, path⟩ := ih
      exact ⟨_, .cons down.isLink path⟩

theorem ChainPath.mem_subtree (inTree : inner ∈ (Focus.root root).subtree)
    (path : ChainPath inner links outer) : outer ∈ (Focus.root root).subtree := by
  induction path with
  | nil => exact inTree
  | cons link _ ih => exact ih (link.descends inTree).2

/-- A chain may end anywhere, and goes on as long as the parents let it. -/
theorem exists_longest_chain (inner : Focus) : ∃ links last, ChainPath inner links last ∧
    ∀ above, ¬ Links last above := by
  obtain ⟨node, path⟩ := inner
  induction path generalizing node with
  | nil => exact ⟨[], _, .nil _, fun above link => nomatch link.1⟩
  | cons frame path ih =>
    by_cases link : Links ⟨node, frame :: path⟩ ⟨frame.parent, path⟩
    · obtain ⟨links, last, rest, ends⟩ := ih frame.parent
      exact ⟨_, last, .cons link rest, ends⟩
    · refine ⟨[], _, .nil _, fun above other => link ?_⟩
      obtain rfl := Option.some.inj other.1
      exact other

/-- No call is a link of its own chain, so that a chain from a call up to a member has links. -/
theorem ChainPath.ne_nil (path : ChainPath call links callee) (isCall : call.node.isCall = true)
    (isMember : callee.node.kind = .memberExpression) : links ≠ [] := by
  rintro rfl
  cases path
  simp [Node.isCall, isMember] at isCall

/-! ## The scan -/

theorem predicateAbove?_of_link {isNegated : Bool} (inTree : inner ∈ (Focus.root root).subtree)
    (link : Links inner outer) :
    predicateAbove? isNegated inner.node inner.path =
      predicateAbove? (isNegated != isNegation outer) outer.node outer.path := by
  have member := (Focus.mem_children_of_parent? inTree link.1).1
  obtain ⟨node, path⟩ := inner
  obtain ⟨above, shape⟩ := link
  cases path with
  | nil => cases above
  | cons frame path =>
    obtain rfl := Option.some.inj above
    have isObject := Focus.isField_iff .object member rfl
    rcases shape with parentheses | ⟨isMember, object⟩
    · have kind : frame.parent.kind = .parenthesizedExpression := parentheses
      simp [predicateAbove?, isNegation, kind]
    · have kind : frame.parent.kind = .memberExpression := isMember
      simp [predicateAbove?, isNegation, kind, isObject.mpr object]

/-- The scan follows a chain, and counts its negations. -/
theorem predicateAbove?_of_chain {isNegated : Bool} (inTree : inner ∈ (Focus.root root).subtree)
    (path : ChainPath inner links outer) :
    predicateAbove? isNegated inner.node inner.path =
      predicateAbove? (isNegated != decide (Odd (negations links))) outer.node outer.path := by
  induction path generalizing isNegated with
  | nil => simp [negations]
  | @cons inner next outer links link _ ih =>
    rw [predicateAbove?_of_link inTree link, ih (link.descends inTree).2, odd_negations_cons,
      Bool.bne_assoc]

theorem calledName?_eq_some_iff {chain : Syntax.Node} :
    calledName? chain = some name ↔
      chain.kind = .memberExpression ∧ chain.memberProperty? = some name ∧ name ≠ "" := by
  rw [calledName?]
  split
  · rename_i isMember
    simp [isMember, Option.filter_eq_some_iff]
  · rename_i other
    simp [other]

theorem predicateAbove?_of_calls {isNegated : Bool} (calls : Calls callee call name) :
    predicateAbove? isNegated callee.node callee.path = some ⟨name, isNegated, call⟩ := by
  have member := Focus.mem_children_of_child? calls.isCallee
  have above := Focus.parent?_of_mem_children member
  have called := calledName?_eq_some_iff.mpr ⟨calls.isMember, calls.named, calls.nonempty⟩
  obtain ⟨node, path⟩ := callee
  cases path with
  | nil => cases above
  | cons frame path =>
    obtain rfl := Option.some.inj above
    have isCallee := (Focus.isField_iff _ member rfl).mpr calls.isCallee
    have kind : frame.parent.kind = .callExpression := calls.isCall
    have named : calledName? node = some name := called
    simp [predicateAbove?, kind, isCallee, named]

/-- The scan finds nothing above a node from which no chain goes on and that no call has for a callee. -/
theorem predicateAbove?_eq_none {isNegated : Bool} (inTree : inner ∈ (Focus.root root).subtree)
    (ends : ∀ above, ¬ Links inner above) (uncalled : ∀ call name, ¬ Calls inner call name) :
    predicateAbove? isNegated inner.node inner.path = none := by
  obtain ⟨node, path⟩ := inner
  cases path with
  | nil => rfl
  | cons frame path =>
    have above : Focus.parent? ⟨node, frame :: path⟩ = some ⟨frame.parent, path⟩ := rfl
    have member := (Focus.mem_children_of_parent? inTree above).1
    have isField (field : Field) := Focus.isField_iff field member rfl
    have noObject : ¬ (frame.parent.kind = .memberExpression ∧ frame.isField .object = true) :=
      fun ⟨kind, object⟩ => ends _ ⟨above, .inr ⟨kind, (isField _).mp object⟩⟩
    have noParentheses : frame.parent.kind ≠ .parenthesizedExpression :=
      fun kind => ends _ ⟨above, .inl kind⟩
    simp only [predicateAbove?, Bool.and_eq_true, decide_eq_true_eq, noObject, noParentheses, if_false]
    split
    · rename_i callee
      rw [Option.map_eq_none_iff, Option.eq_none_iff_forall_ne_some]
      intro name called
      obtain ⟨isMember, named, nonempty⟩ := calledName?_eq_some_iff.mp called
      exact uncalled ⟨frame.parent, path⟩ name ⟨isMember, named, nonempty, callee.1, (isField _).mp callee.2⟩
    · rfl

/-- A chain up to a callee is what the scan finds. -/
theorem chainedPredicate?_of_path (inTree : inner ∈ (Focus.root root).subtree)
    (path : ChainPath inner links callee) (calls : Calls callee call name) :
    chainedPredicate? inner = some ⟨name, decide (Odd (negations links)), call⟩ := by
  rw [chainedPredicate?, predicateAbove?_of_chain inTree path, predicateAbove?_of_calls calls,
    Bool.false_bne]

/-- Where the scan finds something, a chain leads up to it. -/
theorem exists_path_of_chainedPredicate? {found : ChainedPredicate}
    (inTree : inner ∈ (Focus.root root).subtree) (scanned : chainedPredicate? inner = some found) :
    ∃ links callee, ChainPath inner links callee ∧ Calls callee found.call found.name ∧
      found.isNegated = decide (Odd (negations links)) := by
  obtain ⟨links, last, path, ends⟩ := exists_longest_chain inner
  by_cases called : ∃ call name, Calls last call name
  · obtain ⟨call, name, calls⟩ := called
    obtain rfl := Option.some.inj (scanned.symm.trans (chainedPredicate?_of_path inTree path calls))
    exact ⟨links, last, path, calls, rfl⟩
  · rw [chainedPredicate?, predicateAbove?_of_chain inTree path,
      predicateAbove?_eq_none (path.mem_subtree inTree) ends fun call name calls => called ⟨call, name, calls⟩]
      at scanned
    cases scanned

end

/-- The scan from a call finds a predicate just if a chain leads from the call up to the callee of another
call; there is at most one such call, it is called by the name that the callee has, and it is negated if an
odd number of members on the way are called `not`. Downward, it is the call from whose callee a descent comes
to the inner call. A chain that stops before that leaves the scan without a predicate. -/
theorem chainedPredicate?_follows_chain {root : Syntax.Node} {start : Focus}
    (inTree : start ∈ (Focus.root root).subtree) (isCall : start.node.isCall = true) :
    (∀ found, chainedPredicate? start = some found ↔
      ∃ links callee, links ≠ [] ∧ ChainPath start links callee ∧ Calls callee found.call found.name ∧
        (found.isNegated = true ↔ Odd (negations links))) ∧
    (∀ links callee call name others last other given,
      ChainPath start links callee → Calls callee call name →
        ChainPath start others last → Calls last other given → other = call ∧ given = name) ∧
    (∀ call name, (∃ found, chainedPredicate? start = some found ∧ found.call = call ∧ found.name = name) ↔
      ∃ callee, Calls callee call name ∧ Relation.ReflTransGen Descends callee start) ∧
    ∀ links last, ChainPath start links last → (∀ above, ¬ Links last above) →
      (∀ call name, ¬ Calls last call name) → chainedPredicate? start = none := by
  refine ⟨fun found => ⟨fun scanned => ?_, ?_⟩, ?_, fun call name => ⟨?_, ?_⟩, ?_⟩
  · obtain ⟨links, callee, path, calls, negated⟩ := exists_path_of_chainedPredicate? inTree scanned
    exact ⟨links, callee, path.ne_nil isCall calls.isMember, path, calls, by simp [negated]⟩
  · rintro ⟨links, callee, -, path, calls, negated⟩
    have negation : found.isNegated = decide (Odd (negations links)) := by
      rw [Bool.eq_iff_iff, negated, decide_eq_true_iff]
    rw [chainedPredicate?_of_path inTree path calls, ← negation]
  · intro links callee call name others last other given path calls otherPath otherCalls
    have same := (chainedPredicate?_of_path inTree otherPath otherCalls).symm.trans
      (chainedPredicate?_of_path inTree path calls)
    simp only [Option.some.injEq, ChainedPredicate.mk.injEq] at same
    exact ⟨same.2.2, same.1⟩
  · rintro ⟨found, scanned, rfl, rfl⟩
    obtain ⟨links, callee, path, calls, -⟩ := exists_path_of_chainedPredicate? inTree scanned
    exact ⟨callee, calls, (exists_chainPath_iff inTree).mp ⟨links, path⟩⟩
  · rintro ⟨callee, calls, descent⟩
    obtain ⟨links, path⟩ := (exists_chainPath_iff inTree).mpr descent
    exact ⟨_, chainedPredicate?_of_path inTree path calls, rfl, rfl⟩
  · intro links last path ends uncalled
    rw [chainedPredicate?, predicateAbove?_of_chain inTree path,
      predicateAbove?_eq_none (path.mem_subtree inTree) ends uncalled]

def sampleMember (object : Syntax.Node) (property : String) : Syntax.Node :=
  .plain .memberExpression ""
    [object.withField .object, (Node.plain .propertyIdentifier property []).withField .property]

/-- A predicate behind a negation in parentheses. -/
def sampleChain : Syntax.Node :=
  let negation := sampleMember (.plain .callExpression "" []) "not"
  .plain .callExpression ""
    [(sampleMember (.plain .parenthesizedExpression "" [negation]) "toBe").withField .function]

/-- The parentheses do not end the chain, and the negation counts. -/
theorem predicate_of_sample_chain : ∃ callee parentheses negation start : Focus,
    (Focus.root sampleChain).child? .function = some callee ∧ callee.child? .object = some parentheses ∧
      parentheses.children = [negation] ∧ negation.child? .object = some start ∧
      start ∈ (Focus.root sampleChain).subtree ∧ start.node.isCall = true ∧
      chainedPredicate? start = some ⟨"toBe", true, .root sampleChain⟩ := by
  obtain ⟨callee, parentheses, negation, start, called, object, inside, inner, isCallee, toBe, encloses,
      isMember, isNot, isCall⟩ :
      ∃ callee parentheses negation start : Focus,
        (Focus.root sampleChain).child? .function = some callee ∧
          callee.child? .object = some parentheses ∧ parentheses.children = [negation] ∧
          negation.child? .object = some start ∧ callee.node.kind = .memberExpression ∧
          callee.node.memberProperty? = some "toBe" ∧
          parentheses.node.kind = .parenthesizedExpression ∧ negation.node.kind = .memberExpression ∧
          negation.node.memberProperty? = some "not" ∧ start.node.isCall = true :=
    ⟨_, _, _, _, rfl, rfl, rfl, rfl, rfl, rfl, rfl, rfl, rfl, rfl⟩
  have toNegation : Descends negation start := .inl ⟨isMember, inner⟩
  have toParentheses : Descends parentheses negation := .inr ⟨encloses, by simp [inside]⟩
  have toCallee : Descends callee parentheses := .inl ⟨isCallee, object⟩
  have inTree : start ∈ (Focus.root sampleChain).subtree := by
    rw [Focus.mem_subtree_iff]
    exact .head (Focus.mem_children_of_child? called) (.head toCallee.mem_children
      (.head toParentheses.mem_children (.single toNegation.mem_children)))
  have path : ChainPath start [negation, parentheses, callee] callee :=
    .cons toNegation.isLink (.cons toParentheses.isLink (.cons toCallee.isLink (.nil callee)))
  have counted : negations [negation, parentheses, callee] = 1 := by
    simp [negations, isNegation, isMember, isNot, encloses, toBe]
  obtain ⟨scanned, -⟩ := chainedPredicate?_follows_chain inTree isCall
  refine ⟨callee, parentheses, negation, start, called, object, inside, inner, inTree, isCall,
    (scanned _).mpr ⟨_, callee, List.cons_ne_nil _ _, path, ?_, ?_⟩⟩
  · exact ⟨isCallee, toBe, by decide, rfl, called⟩
  · simp [counted]

end TestFlow

import TestFlow.Proofs.Outcome
import TestFlow.Proofs.Syntax.Traversal

/-! # The fault a tree is refused with

A parser flags the root of a tree if there is a bad node anywhere in it. On such trees the flag and the search
for the fault agree: a tree is refused if it holds a bad node, and the fault tells of the first one in preorder.
-/

namespace TestFlow

open Syntax

namespace Syntax

/-- Whether the flag at the root of a tree tells of the nodes in it. -/
def Node.FlagsBadNodes (root : Node) : Prop :=
  root.hasError = true ↔ ∃ focus, (Focus.root root).LeadsTo focus ∧ focus.node.isBad = true

theorem Node.firstBad?_eq (root : Node) :
    root.firstBad? = ((Focus.root root).subtree.find? (·.node.isBad)).map (·.node) := by
  rw [firstBad?, preorder_eq, List.find?_map]
  rfl

theorem Node.exists_firstBad {root : Node} {focus : Focus} (leads : (Focus.root root).LeadsTo focus)
    (bad : focus.node.isBad = true) :
    ∃ before first after, (Focus.root root).subtree = before ++ first :: after ∧
      (∀ earlier ∈ before, earlier.node.isBad = false) ∧ first.node.isBad = true ∧
      root.firstBad? = some first.node := by
  have among : focus ∈ (Focus.root root).subtree := Focus.mem_subtree_iff.mpr leads
  have met : ((Focus.root root).subtree.find? (·.node.isBad)).isSome = true :=
    List.find?_isSome.mpr ⟨focus, among, bad⟩
  obtain ⟨first, found⟩ := Option.isSome_iff_exists.mp met
  obtain ⟨firstIsBad, before, after, split, sound⟩ := List.find?_eq_some_iff_append.mp found
  refine ⟨before, first, after, split, fun earlier member => ?_, firstIsBad, ?_⟩
  · simpa using sound earlier member
  · rw [firstBad?_eq, found, Option.map_some]

theorem Node.message_fault (node : Node) :
    node.fault.message = (if node.isMissing then "Missing token" else "Syntax error") ++
      " at line " ++ toString (node.start.row + 1) ++ ", column " ++ toString (node.start.column + 1) := by
  have flawText : (if node.isMissing then Flaw.missingToken else .misplaced).text =
      if node.isMissing then "Missing token" else "Syntax error" := by
    cases node.isMissing with
    | true => simp only [if_true, Flaw.text]
    | false => simp only [Bool.false_eq_true, if_false, Flaw.text]
  rw [Node.fault, Fault.message, flawText, faultText]

end Syntax

/-- A tree in one of the three languages whose flag tells of its nodes is accepted as it is if no node of it is
an error or a missing token. Else it is refused at the first such node in preorder: the line and the column
are those of that node, counted from one, and the message tells a missing token from an error by it. -/
theorem refused_at_first_bad_node {language : String} {root : Syntax.Node}
    (supported : language ∈ ["javascript", "typescript", "tsx"]) (flags : root.FlagsBadNodes) :
    (acceptTree language root = .ok root ↔
      ∀ focus, (Focus.root root).LeadsTo focus →
        focus.node.isError = false ∧ focus.node.isMissing = false) ∧
    (acceptTree language root ≠ .ok root →
      ∃ before first after line column failure,
        (Focus.root root).subtree = before ++ first :: after ∧
        (∀ earlier ∈ before, earlier.node.isError = false ∧ earlier.node.isMissing = false) ∧
        (first.node.isError = true ∨ first.node.isMissing = true) ∧
        line = first.node.start.row + 1 ∧ column = first.node.start.column + 1 ∧
        acceptTree language root = .error failure ∧
        failure = .malformedSource
          (.located (if first.node.isMissing then .missingToken else .misplaced) line column) ∧
        failure.message = (if first.node.isMissing then "Missing token" else "Syntax error") ++
          " at line " ++ toString line ++ ", column " ++ toString column) := by
  have sound_iff (node : Syntax.Node) :
      node.isBad = false ↔ node.isError = false ∧ node.isMissing = false := Bool.or_eq_false_iff
  have checked : acceptTree language root = checkTree root := acceptTree_supported supported
  cases flagged : root.hasError with
  | false =>
    have accepted : acceptTree language root = .ok root := checked.trans (checkTree_sound flagged)
    refine ⟨⟨fun _ focus leads => ?_, fun _ => accepted⟩, fun refused => absurd accepted refused⟩
    rw [← sound_iff, ← Bool.not_eq_true]
    intro bad
    rw [flags.mpr ⟨focus, leads, bad⟩] at flagged
    cases flagged
  | true =>
    obtain ⟨focus, leads, bad⟩ := flags.mp flagged
    obtain ⟨before, first, after, split, sound, firstIsBad, found⟩ := Node.exists_firstBad leads bad
    have refused : acceptTree language root = .error (.malformedSource first.node.fault) := by
      rw [checked, checkTree_flagged flagged, found, Option.getD_some]
    refine ⟨⟨fun accepted => ?_, fun allSound => ?_⟩, fun _ => ?_⟩
    · rw [refused] at accepted
      cases accepted
    · rw [(sound_iff _).mpr (allSound focus leads)] at bad
      cases bad
    · exact ⟨before, first, after, first.node.start.row + 1, first.node.start.column + 1,
        .malformedSource first.node.fault, split, fun earlier member => (sound_iff _).mp (sound earlier member),
        (Bool.or_eq_true _ _).mp firstIsBad, rfl, rfl, refused, rfl,
        first.node.message_fault⟩

/-- A missing token far down in the first part of a program, and an error that stands further up in the text
but comes later in the tree. -/
def sampleFaultyTree : Syntax.Node :=
  let missing : Syntax.Node :=
    { Node.plain (.other ")") "" [] with isMissing := true, hasError := true, start := ⟨2, 4⟩ }
  let holder : Syntax.Node := { Node.plain .arguments "" [missing] with hasError := true }
  let wrong : Syntax.Node := { Node.plain (.other "ERROR") "" [] with isError := true, hasError := true }
  { Node.plain (.other "program") "" [holder, wrong] with hasError := true }

theorem refusal_of_sample_faulty_tree :
    "tsx" ∈ ["javascript", "typescript", "tsx"] ∧ sampleFaultyTree.FlagsBadNodes ∧
      ∃ before first after, (Focus.root sampleFaultyTree).subtree = before ++ first :: after ∧
        (∀ earlier ∈ before, earlier.node.isError = false ∧ earlier.node.isMissing = false) ∧
        first.node.start.row = 2 ∧ first.node.start.column = 4 ∧ first.node.isMissing = true ∧
        acceptTree "tsx" sampleFaultyTree = .error (.malformedSource (.located .missingToken 3 5)) := by
  have supported : "tsx" ∈ ["javascript", "typescript", "tsx"] := by decide
  have wrongMet : (Focus.root sampleFaultyTree).LeadsTo
      ⟨_, [⟨sampleFaultyTree, 1⟩]⟩ := .single (List.mem_of_getElem? (i := 1) rfl)
  have flags : sampleFaultyTree.FlagsBadNodes := ⟨fun _ => ⟨_, wrongMet, rfl⟩, fun _ => rfl⟩
  have refused : acceptTree "tsx" sampleFaultyTree = .error (.malformedSource (.located .missingToken 3 5)) := by
    rw [acceptTree_supported supported, checkTree_flagged rfl, Node.firstBad?, sampleFaultyTree]
    simp [preorder, Node.isBad, Node.plain, Node.fault]
  obtain ⟨before, first, after, line, column, failure, split, sound, -, lineIs, columnIs, came, told, -⟩ :=
    (refused_at_first_bad_node supported flags).2 (by simp [refused])
  rw [refused, told, lineIs, columnIs] at came
  obtain ⟨flaw, row, place⟩ := Fault.located.inj (Failure.malformedSource.inj (Except.error.inj came))
  have missing : first.node.isMissing = true := by
    by_contra present
    rw [if_neg present] at flaw
    cases flaw
  exact ⟨supported, flags, before, first, after, split, sound, by omega, by omega, missing, refused⟩

end TestFlow

import TestFlow.Proofs.Diagram.Chain

/-! # Renaming nodes

A map of the names of nodes acts on all that is made of names: nodes, edges, trails, tables of shared nodes.
A map that identifies no two nodes of a path goes along with the path: the same edges are drawn, renamed.
-/

namespace TestFlow.Diagram

/-- A node under another name; its label stays. -/
def Node.map (f : NodeId → NodeId) (node : Node) : Node :=
  ⟨f node.id, node.label⟩

/-- An edge between renamed ends. -/
def Edge.map (f : NodeId → NodeId) (edge : Edge) : Edge :=
  ⟨f edge.source, f edge.target⟩

/-- A trail over renamed nodes. -/
def Trail.map (f : NodeId → NodeId) (trail : Trail) : Trail :=
  ⟨trail.last.map f, trail.edges.map (Edge.map f)⟩

variable {f : NodeId → NodeId}

/-! ## Maps that identify no two names -/

section Injective

variable (injective : Function.Injective f)
include injective

theorem Edge.map_injective : Function.Injective (Edge.map f) := by
  rintro ⟨source, target⟩ ⟨otherSource, otherTarget⟩ same
  obtain ⟨sources, targets⟩ := Edge.mk.inj same
  exact congrArg₂ Edge.mk (injective sources) (injective targets)

theorem Trail.newEdge?_map (trail : Trail) (id : NodeId) :
    (trail.map f).newEdge? (f id) = (trail.newEdge? id).map (Edge.map f) := by
  rcases trail with ⟨_ | last, edges⟩
  · rfl
  · have moves : f last = f id ↔ last = id := injective.eq_iff
    have drawn : (⟨f last, f id⟩ : Edge) ∈ edges.map (Edge.map f) ↔ ⟨last, id⟩ ∈ edges :=
      List.mem_map_of_injective (Edge.map_injective injective) (a := ⟨last, id⟩)
    simp only [Trail.newEdge?, Trail.map, Option.map_some, moves, drawn]
    split <;> rfl

theorem Trail.goTo_map (trail : Trail) (id : NodeId) :
    (trail.map f).goTo (f id) = (trail.goTo id).map f := by
  rw [Trail.goTo, Trail.newEdge?_map injective, Option.toList_map]
  simp only [Trail.map, Trail.goTo, Option.map_some, List.map_append]

end Injective

/-! ## Maps that identify no two nodes of a path -/

theorem transitions_map {path : List NodeId}
    (injective : ∀ first ∈ path, ∀ second ∈ path, f first = f second → first = second) :
    transitions (path.map f) = (transitions path).map (Edge.map f) := by
  have zipped : (path.map f).zip (path.map f).tail = (path.zip path.tail).map (Prod.map f f) := by
    rw [← List.map_tail, List.zip_map]
  have moves : ∀ pair ∈ path.zip path.tail,
      ((fun pair : NodeId × NodeId => decide (pair.1 ≠ pair.2)) ∘ Prod.map f f) pair =
        decide (pair.1 ≠ pair.2) := by
    rintro ⟨source, target⟩ member
    obtain ⟨first, second⟩ := List.of_mem_zip member
    change decide (f source ≠ f target) = decide (source ≠ target)
    rw [decide_eq_decide, not_iff_not]
    exact ⟨injective _ first _ (List.mem_of_mem_tail second), congrArg f⟩
  rw [transitions, zipped, List.filter_map, List.filter_congr moves, List.map_map, transitions,
    List.map_map]
  rfl

theorem eraseDups_map {edges : List Edge}
    (injective : ∀ first ∈ edges, ∀ second ∈ edges, first.map f = second.map f → first = second) :
    (edges.map (Edge.map f)).eraseDups = edges.eraseDups.map (Edge.map f) := by
  induction edges using List.reverseRecOn with
  | nil => rfl
  | append_singleton edges edge ih =>
    have early := ih fun first firstMem second secondMem =>
      injective first (List.mem_append_left _ firstMem) second (List.mem_append_left _ secondMem)
    have drawn : edge.map f ∈ edges.map (Edge.map f) ↔ edge ∈ edges := by
      refine ⟨fun mapped => ?_, List.mem_map_of_mem⟩
      obtain ⟨other, member, same⟩ := List.mem_map.mp mapped
      exact injective other (List.mem_append_left _ member) edge (by simp) same ▸ member
    have before := eraseDups_append_toList edges (some edge)
    have after := eraseDups_append_toList (edges.map (Edge.map f)) (some (edge.map f))
    simp only [Option.toList_some] at before after
    rw [List.map_append, List.map_singleton, before, after, early, List.map_append]
    by_cases known : edge ∈ edges <;> simp [Option.filter, drawn, known]

/-- The edges of a mapped path are the mapped edges of the path, if the map identifies none of its nodes. -/
theorem pathEdges_map {path : List NodeId}
    (injective : ∀ first ∈ path, ∀ second ∈ path, f first = f second → first = second) :
    pathEdges (path.map f) = (pathEdges path).map (Edge.map f) := by
  rw [pathEdges, pathEdges, transitions_map injective, eraseDups_map]
  rintro ⟨firstSource, firstTarget⟩ firstMem ⟨secondSource, secondTarget⟩ secondMem same
  obtain ⟨sourceSame, targetSame⟩ := Edge.mk.inj same
  have first := mem_of_mem_transitions firstMem
  have second := mem_of_mem_transitions secondMem
  exact congrArg₂ Edge.mk (injective _ first.1 _ second.1 sourceSame)
    (injective _ first.2 _ second.2 targetSame)

end TestFlow.Diagram

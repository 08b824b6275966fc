import Mathlib.Logic.ExistsUnique
import TestFlow.Proofs.Diagram.LineReader
import TestFlow.Proofs.Diagram.Step

/-! # Reading a diagram

An outline is what a diagram says: the tests in the order they are opened, and each node and each edge
with the region it stands in. The reader goes through a text line by line and keeps the region it is in.
It refuses a test opened inside another one, an end without a test, a test that is not closed, and a line
that is not indented as its region asks.
-/

namespace TestFlow.Diagram

/-- The lines of a text, the last one being what follows the last line feed. -/
def textLines (text : String) : List String :=
  (text.split '\n').toList.map (·.copy)

/-- What a diagram says: numbers and labels of tests, and what stands in which region. -/
structure Outline where
  tests : List (Nat × String) := []
  nodes : List (Region × Node) := []
  edges : List (Region × Edge) := []
deriving DecidableEq, Repr, Inhabited

namespace Outline

/-- Read one more line in a region. -/
def readLine? : Region × Outline → Line → Option (Region × Outline)
  | (.topLevel, outline), .testStart number label =>
    some (.test number, { outline with tests := outline.tests ++ [(number, label)] })
  | (.test _, outline), .testEnd => some (.topLevel, outline)
  | (region, outline), .node inTest node =>
    if inTest = region.isTest then
      some (region, { outline with nodes := outline.nodes ++ [(region, node)] })
    else none
  | (region, outline), .edge inTest edge =>
    if inTest = region.isTest then
      some (region, { outline with edges := outline.edges ++ [(region, edge)] })
    else none
  | _, _ => none

/-- The outline of lines that begin and end at top level. -/
def ofLines? (lines : List Line) : Option Outline :=
  match lines.foldlM readLine? (.topLevel, {}) with
  | some (.topLevel, outline) => some outline
  | _ => none

/-- The outline of a text: two headers, lines of the four shapes, and nothing after the last line feed. -/
def ofText? (text : String) : Option Outline :=
  match textLines text with
  | first :: second :: rest =>
    if first = theme ∧ second = "flowchart TD" ∧ rest.getLast? = some "" then
      (rest.dropLast.mapM Line.ofText?).bind ofLines?
    else none
  | _ => none

/-- Closing the test, if one is open, leads to the top level. -/
theorem foldlM_closing (region : Region) (outline : Outline) :
    (if region.isTest then [Line.testEnd] else []).foldlM readLine? (region, outline) =
      some (.topLevel, outline) := by
  cases region <;> rfl

theorem foldlM_nodes (region : Region) (outline : Outline) (nodes : List Node) :
    (nodes.map (Line.node region.isTest)).foldlM readLine? (region, outline) =
      some (region, { outline with nodes := outline.nodes ++ nodes.map (region, ·) }) := by
  induction nodes generalizing outline with
  | nil => simp
  | cons node rest ih =>
    rw [List.map_cons, List.foldlM_cons]
    simp [readLine?, ih]

theorem foldlM_edges (region : Region) (outline : Outline) (edges : List Edge) :
    (edges.map (Line.edge region.isTest)).foldlM readLine? (region, outline) =
      some (region, { outline with edges := outline.edges ++ edges.map (region, ·) }) := by
  induction edges generalizing outline with
  | nil => simp
  | cons edge rest ih =>
    rw [List.map_cons, List.foldlM_cons]
    simp [readLine?, ih]

end Outline

/-! ## Texts without stray line feeds -/

/-- A line of one of the four shapes whose label could stand in any line. -/
structure Line.Legible (line : Line) : Prop where
  shaped : line.shape?.isSome
  clean : ∀ c ∈ line.label.toList, c ≠ '"' ∧ isControl c = false

theorem not_mem_number (number : Nat) : '\n' ∉ (toString number).toList := by
  rw [toList_number]
  intro member
  have := Nat.isDigit_of_mem_toDigits (by decide) (by decide) member
  simp at this

theorem not_mem_idText (id : NodeId) : '\n' ∉ id.text.toList := by
  rw [NodeId.text, String.toList_append, List.mem_append, not_or]
  exact ⟨by cases id.kind <;> decide, not_mem_number _⟩

namespace Line.Legible

variable {line : Line} (legible : line.Legible)
include legible

theorem ofText?_text : Line.ofText? line.text = some line :=
  ofText?_eq_some_iff.mpr ⟨rfl, legible.shaped, fun member => (legible.clean _ member).1 rfl⟩

theorem not_mem_text : '\n' ∉ line.text.toList := by
  have label : '\n' ∉ line.label.toList := by
    intro member
    have := (legible.clean _ member).2
    revert this
    decide
  cases line with
  | theme => cases legible.shaped
  | direction => cases legible.shaped
  | testStart number name =>
    simp only [Line.text, opening, testId, String.toList_append, List.mem_append, not_or]
    exact ⟨by decide, ⟨⟨⟨by decide, by decide, not_mem_number _⟩, by decide⟩, label⟩, by decide⟩
  | testEnd => decide
  | node inTest declared =>
    simp only [Line.text, declaration, String.toList_append, List.mem_append, not_or]
    exact ⟨by cases inTest <;> decide, ⟨⟨not_mem_idText _, by decide⟩, label⟩, by decide⟩
  | edge inTest stated =>
    simp only [Line.text, statement, String.toList_append, List.mem_append, not_or]
    exact ⟨by cases inTest <;> decide, ⟨not_mem_idText _, by decide⟩, not_mem_idText _⟩

end Line.Legible

/-- The lines of a written text are the ones it was written from, and an empty one. -/
theorem textLines_textOf {lines : List Line} (nonempty : lines ≠ [])
    (clean : ∀ line ∈ lines, '\n' ∉ line.text.toList) :
    textLines (textOf lines) = lines.map Line.text ++ [""] := by
  have joined : textOf lines = "\n".intercalate (lines.map Line.text ++ [""]) := by
    rw [String.intercalate_append_of_ne_nil (by simpa using nonempty) (by simp),
      String.intercalate_singleton, String.append_empty, textOf]
  have unbroken : ∀ text ∈ lines.map Line.text ++ [""], '\n' ∉ text.toList := by
    intro text member
    rcases List.mem_append.mp member with written | last
    · obtain ⟨line, among, rfl⟩ := List.mem_map.mp written
      exact clean line among
    · simp [List.mem_singleton.mp last]
  have split := String.toList_split_intercalate unbroken
  rw [if_neg (by simp)] at split
  rw [joined]
  exact split

theorem Line.Legible.fits_iff {line : Line} (legible : line.Legible) {shape : Shape} :
    shape.Fits line.text ↔ line.shape? = some shape := by
  rw [Shape.fits_iff, legible.ofText?_text, Option.bind_some]

/-- A legible line has exactly one of the four shapes. -/
theorem Line.Legible.existsUnique_fits {line : Line} (legible : line.Legible) :
    ∃! shape : Shape, shape.Fits line.text := by
  obtain ⟨shape, shaped⟩ := Option.isSome_iff_exists.mp legible.shaped
  refine ⟨shape, legible.fits_iff.mpr shaped, fun other fits => ?_⟩
  have same := shaped.symm.trans (legible.fits_iff.mp fits)
  exact (Option.some.inj same).symm

/-- Legible lines are read as they were written. -/
theorem mapM_ofText? {lines : List Line} (legible : ∀ line ∈ lines, line.Legible) :
    (lines.map Line.text).mapM Line.ofText? = some lines := by
  induction lines with
  | nil => rfl
  | cons line rest ih =>
    have later := ih fun other member => legible other (List.mem_cons_of_mem _ member)
    simp [(legible line List.mem_cons_self).ofText?_text, later]

/-- The headers are not broken, and they are not read as lines of a diagram. -/
theorem header_unread {header : Line} (member : header ∈ [Line.theme, .direction]) :
    '\n' ∉ header.text.toList ∧ Line.ofText? header.text = none := by
  simp only [List.mem_cons, List.not_mem_nil, or_false] at member
  rcases member with rfl | rfl
  · decide +kernel
  · decide +kernel

/-- The lines of a diagram written with two headers and legible lines. -/
theorem textLines_diagram {body : List Line} (legible : ∀ line ∈ body, line.Legible) :
    textLines (textOf (.theme :: .direction :: body)) =
      [theme, "flowchart TD"] ++ body.map Line.text ++ [""] := by
  have clean : ∀ line ∈ Line.theme :: .direction :: body, '\n' ∉ line.text.toList := by
    intro line member
    rcases List.mem_append.mp (show line ∈ [.theme, .direction] ++ body from member) with header | inBody
    · exact (header_unread header).1
    · exact (legible line inBody).not_mem_text
  rw [textLines_textOf (List.cons_ne_nil _ _) clean]
  rfl

/-- A diagram written with two headers and legible lines is read from its text. -/
theorem Outline.ofText?_textOf {body : List Line} (legible : ∀ line ∈ body, line.Legible) :
    ofText? (textOf (.theme :: .direction :: body)) = ofLines? body := by
  simp [ofText?, textLines_diagram legible, mapM_ofText? legible]

end TestFlow.Diagram

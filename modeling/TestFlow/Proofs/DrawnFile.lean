import TestFlow.FileFlow
import TestFlow.Proofs.Diagram.LineEnds
import TestFlow.Proofs.Directories
import TestFlow.Proofs.Outcome
import TestFlow.Source.Program

/-! # What drawing a file does to the disk

Reading and drawing change nothing, and writing comes last. So a run that fails to read or draw leaves the disk as it
was, and so does one to a place that is a directory or has a file above it. A run to a place that the system takes no
name for may have made directories by then, and one with a text that has no bytes has emptied the file. A run that gives
a graph has written its text, made the directories it was to stand in, and nothing else.
-/

namespace TestFlow

open Syntax Diagram Source

/-! ## Drawing a source text -/

section

variable {parser : Parser} {settings : Settings} {given : Option String} {language text : String}

theorem exists_ok_of_toOption {α : Type} {outcome : Except Failure α} (isOk : outcome.toOption.isSome) :
    ∃ value, outcome = .ok value := by
  cases outcome with
  | error failure => cases isOk
  | ok value => exact ⟨value, rfl⟩

theorem draw_known (known : Reuse.requested settings given ∈ ["test", "run"]) (root : Syntax.Node) :
    ∃ graph, draw settings given root = .ok graph := by
  obtain ⟨builder, started⟩ := start_known known
  obtain ⟨drawn, folded, -⟩ := (Agrees.of_start started).draw settings (testEvents settings root)
  exact ⟨.ofBuilder drawn.finish, by simp only [draw, started, folded, bind, Except.bind, pure, Except.pure]⟩

theorem flowOfSource_known {root : Syntax.Node} (accepted : acceptSource parser language text = .ok root)
    (known : Reuse.requested settings given ∈ ["test", "run"]) :
    ∃ graph, flowOfSource parser settings given language text = .ok graph := by
  obtain ⟨graph, drawn⟩ := draw_known known root
  exact ⟨graph, by simp only [flowOfSource, accepted, drawn, bind, Except.bind]⟩

theorem flowOfSource_unknown (unknown : Reuse.requested settings given ∉ ["test", "run"]) (graph : Graph) :
    flowOfSource parser settings given language text ≠ .ok graph := by
  intro drawn
  cases accepted : acceptSource parser language text with
  | error failure => simp [flowOfSource, accepted, bind, Except.bind] at drawn
  | ok root => simp [flowOfSource, accepted, draw, start_unknown unknown, bind, Except.bind] at drawn

end

/-! ## Drawing a file -/

/-- The graph that a test file has, if it is drawn at all. -/
def DrawsTo (parser : Parser) (settings : Settings) (given : Option String) (files : FileSystem) (source : Path)
    (graph : Graph) : Prop :=
  ∃ text, readSource files source = .ok text ∧
    flowOfSource parser settings given source.language.name text = .ok graph

section

variable {parser : Parser} {settings : Settings} {given : Option String} {files : FileSystem} {source out : Path}
  {graph : Graph}

theorem DrawsTo.unique {other : Graph} (draws : DrawsTo parser settings given files source graph)
    (drawsToo : DrawsTo parser settings given files source other) : graph = other := by
  obtain ⟨text, read, drawn⟩ := draws
  obtain ⟨_, readToo, drawnToo⟩ := drawsToo
  obtain rfl := Except.ok.inj (read.symm.trans readToo)
  exact Except.ok.inj (drawn.symm.trans drawnToo)

theorem drawFile_of_draws (out : Path) (draws : DrawsTo parser settings given files source graph) :
    ∃ journal, drawFile parser settings given files source out =
      ⟨match (files.writeWithin out graph.text).trouble with
        | none => .ok graph
        | some failure => .error failure,
        journal, (files.writeWithin out graph.text).files⟩ := by
  obtain ⟨text, read, drawn⟩ := draws
  exact ⟨_, by simp only [drawFile, read, drawn]; rfl⟩

theorem drawFile_of_not_draws (out : Path) (undrawn : ∀ graph, ¬ DrawsTo parser settings given files source graph) :
    ∃ failure, (drawFile parser settings given files source out).outcome = .error failure ∧
      (drawFile parser settings given files source out).files = files := by
  cases read : readSource files source with
  | error failure => exact ⟨failure, by simp only [drawFile, read], by simp only [drawFile, read]⟩
  | ok text =>
    cases drawn : flowOfSource parser settings given source.language.name text with
    | error failure => exact ⟨failure, by simp only [drawFile, read, drawn], by simp only [drawFile, read, drawn]⟩
    | ok graph => exact absurd ⟨text, read, drawn⟩ (undrawn graph)

/-- What comes of drawing a file: its graph is written, or it has none and nothing has changed, or writing it is
abandoned. -/
inductive DrawingEnds (parser : Parser) (settings : Settings) (given : Option String) (files : FileSystem)
    (source out : Path) : Except Failure Graph → FileSystem → Prop where
  | written {graph : Graph} {after : FileSystem} (draws : DrawsTo parser settings given files source graph)
      (encoded : ¬ files.HoldsSurrogate graph.text) (wrote : files.Written out.names graph.text.toUTF8 after) :
      DrawingEnds parser settings given files source out (.ok graph) after
  | undrawn (failure : Failure) (undrawn : ∀ graph, ¬ DrawsTo parser settings given files source graph) :
      DrawingEnds parser settings given files source out (.error failure) files
  | abandoned (failure : Failure) {graph : Graph} {after : FileSystem}
      (draws : DrawsTo parser settings given files source graph)
      (abandoned : files.Abandoned out.names graph.text after) :
      DrawingEnds parser settings given files source out (.error failure) after

theorem drawingEnds_drawFile (parser : Parser) (settings : Settings) (given : Option String) (source : Path)
    (tree : files.IsTree) (plain : ".." ∉ out.names) :
    DrawingEnds parser settings given files source out (drawFile parser settings given files source out).outcome
      (drawFile parser settings given files source out).files := by
  by_cases drawn : ∃ graph, DrawsTo parser settings given files source graph
  · obtain ⟨graph, draws⟩ := drawn
    obtain ⟨journal, came⟩ := drawFile_of_draws out draws
    have writes := FileSystem.writes_writeWithin graph.text tree plain
    rw [came]
    generalize files.writeWithin out graph.text = change at writes
    cases writes with
    | done encoded wrote => exact .written draws encoded wrote
    | stopped failure abandoned => exact .abandoned failure draws abandoned
  · obtain ⟨failure, failed, same⟩ := drawFile_of_not_draws out (not_exists.mp drawn)
    rw [failed, same]
    exact .undrawn failure (not_exists.mp drawn)

end

/-- A directory with an empty test file in it. -/
def sampleDisk : FileSystem :=
  (({ entries := [] } : FileSystem).put ["W"] .directory).put ["W", "s.js"] (.file "".toUTF8)

theorem sampleDisk_lookup? (location : Location) :
    sampleDisk.lookup? location =
      if location = ["W", "s.js"] then some (.file "".toUTF8)
      else if location = ["W"] then some .directory
      else if location = [] then some .directory else none := by
  rw [sampleDisk, FileSystem.lookup?_put (by decide), FileSystem.lookup?_put (by decide)]
  rfl

theorem sampleDisk_isTree : sampleDisk.IsTree := by
  intro location below there
  rw [sampleDisk_lookup?] at there
  by_cases isFile : location = ["W", "s.js"]
  · rw [isFile]
    rfl
  · by_cases isDirectory : location = ["W"]
    · rw [isDirectory]
      rfl
    · rw [if_neg isFile, if_neg isDirectory, if_neg below] at there
      exact absurd rfl there

theorem sampleDisk_free {location : Location} (below : ¬ location <+: ["W"])
    (apart : ¬ ["W", "s.js"] <+: location) : ¬ sampleDisk.Blocked location := by
  rintro (there | ⟨above, content, leads, -, there⟩)
  · have isFile : location ≠ ["W", "s.js"] := fun same => apart (same ▸ List.prefix_rfl)
    have isDirectory : location ≠ ["W"] := fun same => below (same ▸ List.prefix_rfl)
    have isRoot : location ≠ [] := fun same => below (same ▸ List.nil_prefix)
    rw [sampleDisk_lookup?, if_neg isFile, if_neg isDirectory, if_neg isRoot] at there
    cases there
  · have isFile : above ≠ ["W", "s.js"] := fun same => apart (same ▸ leads)
    rw [sampleDisk_lookup?, if_neg isFile] at there
    split_ifs at there <;> cases there

/-- No text holds a surrogate where nothing stands for one. -/
theorem sampleDisk_encodes (text : String) : ¬ sampleDisk.HoldsSurrogate text := by
  rintro ⟨c, -, held⟩
  cases held

theorem sampleDisk_draws : ∃ graph, DrawsTo parse {} none sampleDisk (.rooted ["W", "s.js"]) graph := by
  have accepted : (acceptSource parse "javascript" "").toOption.isSome := by decide +kernel
  obtain ⟨root, accepted⟩ := exists_ok_of_toOption accepted
  have known : Reuse.requested {} none ∈ ["test", "run"] := by decide
  obtain ⟨graph, drawn⟩ := flowOfSource_known accepted known
  exact ⟨graph, "", rfl, drawn⟩

end TestFlow

import TestFlow.CommandLine.Run
import TestFlow.Proofs.CommandLine.Markup
import TestFlow.Proofs.Diagram.LineReader
import TestFlow.Proofs.DrawnFile

/-! # What a run comes to

A run that does not debug ends as the drawing of its file does, as long as its progress lines can be shown. They
hold the two paths as they were given. A path that spoils its line ends the run before the drawing, with the exit
code of a failure and nothing written, even if the drawing would have succeeded. This holds for every parser, and on
every console that obeys the laws.
-/

namespace TestFlow.CommandLine

open Diagram Source

/-! ## Lines that can be shown -/

section

variable {console : Console} {look title words text line : String} {lines : List String} {request : Request}
  {settings : Settings} {out : Path} {graph : Graph}

theorem showLines_shown_iff : (showLines console lines).2 = none ↔ ∀ line ∈ lines, console.Shows line := by
  induction lines with
  | nil => simp [showLines]
  | cons line rest ih =>
    rw [List.forall_mem_cons, ← ih]
    cases rendered : console.render line with
    | error problem => simp [showLines, rendered, Console.Shows]
    | ok shown => simp [showLines, rendered, Console.Shows]

namespace Console.IsLawful

variable (lawful : console.IsLawful)

include lawful

theorem shows_blank : console.Shows "" :=
  lawful.untagged (by decide)

theorem shows_titled_iff (isLook : isLookName look = true) (plain : isPlainText title = true) :
    console.Shows (titled look title text) ↔ console.Shows text := by
  rw [titled, String.append_assoc, lawful.behind_title isLook plain, lawful.behind_words (by decide)]

theorem shows_number (number : Nat) : console.Shows (toString number) := by
  refine lawful.untagged fun bracket => ?_
  rw [toList_number] at bracket
  have digit := Nat.isDigit_of_mem_toDigits (by decide) (by decide) bracket
  exact absurd digit (by decide)

/-- A failure is always shown, whatever its message holds. -/
theorem shows_failureLine (failure : Failure) : console.Shows (failureLine console failure) := by
  rw [failureLine, lawful.behind_words (by decide), lawful.shows_titled_iff (by decide) (by decide)]
  exact lawful.escaped failure.message

/-- The lines before the work can be shown if the two paths and the name of the reuse can. -/
theorem shows_openingLines_iff :
    (∀ line ∈ openingLines request settings out, console.Shows line) ↔
      console.Shows request.file.text ∧ console.Shows (request.dedupScope.getD settings.dedupScope) ∧
        console.Shows out.text := by
  have banner : console.Shows
      ("\n" ++ styled "bold cyan" ("═══ " ++ programName ++ ": Generate Flow Diagram ═══") ++ "\n") := by
    rw [String.append_assoc, lawful.behind_words (by decide), lawful.behind_title (by decide) (by decide)]
    exact lawful.untagged (by decide)
  simp only [openingLines, List.forall_mem_cons, List.not_mem_nil, false_imp_iff, implies_true, banner,
    lawful.shows_blank, true_and, and_true]
  rw [lawful.shows_titled_iff (by decide) (by decide), lawful.shows_titled_iff (by decide) (by decide),
    lawful.shows_titled_iff (by decide) (by decide)]

/-- The lines after the work can be shown if the path of the diagram can. -/
theorem shows_closingLines_iff : (∀ line ∈ closingLines graph out, console.Shows line) ↔ console.Shows out.text := by
  have banner : console.Shows ("\n" ++ styled "bold green" "✓ Flow diagram generated") := by
    rw [← String.append_empty (s := "\n" ++ styled _ _), String.append_assoc, lawful.behind_words (by decide),
      lawful.behind_title (by decide) (by decide)]
    exact lawful.shows_blank
  simp only [closingLines, List.forall_mem_cons, List.not_mem_nil, false_imp_iff, implies_true, banner,
    lawful.shows_blank, true_and, and_true]
  rw [lawful.shows_titled_iff (by decide) (by decide), lawful.shows_titled_iff (by decide) (by decide),
    lawful.shows_titled_iff (by decide) (by decide), lawful.shows_titled_iff (by decide) (by decide)]
  simp only [lawful.shows_number, true_and]

end Console.IsLawful

end

/-! ## Runs -/

/-- Whether a run ends as a drawing has: with the exit codes of success and failure, and with its files. -/
structure Run.Follows (run : Run) (report : Report) : Prop where
  succeeds : run.ending = .exit 0 ↔ ∃ graph, report.outcome = .ok graph
  fails : run.ending = .exit 1 ↔ ∃ failure, report.outcome = .error failure
  files : run.files = report.files

theorem Run.Follows.of_failure {run : Run} {report : Report} {files : FileSystem} {failure : Failure}
    (ended : run.ending = .exit 1 ∧ run.files = files) (failed : report.outcome = .error failure)
    (same : report.files = files) : run.Follows report :=
  ⟨by simp [ended.1, failed], by simp [ended.1, failed], ended.2.trans same.symm⟩

section

variable {console : Console} {lines : List String} {settings : Settings} {request : Request}
  {out : Path}

theorem Run.showing_shown (run : Run) (spoilt : Failure → Run → Run) (next : Run → Run)
    (shown : ∀ line ∈ lines, console.Shows line) :
    run.showing console lines spoilt next =
      next { run with output := run.output ++ (showLines console lines).1 } := by
  have quiet := showLines_shown_iff.mpr shown
  simp only [Run.showing, quiet]

theorem Run.showing_spoilt (run : Run) (spoilt : Failure → Run → Run) (next : Run → Run)
    (hidden : ¬ ∀ line ∈ lines, console.Shows line) :
    ∃ failure, run.showing console lines spoilt next =
      spoilt failure { run with output := run.output ++ (showLines console lines).1 } := by
  obtain ⟨failure, trouble⟩ := Option.ne_none_iff_exists'.mp (mt showLines_shown_iff.mp hidden)
  exact ⟨failure, by simp only [Run.showing, trouble]⟩

/-- A name of a reuse that spoils its line is none of the known ones, so nothing is drawn with it. -/
theorem requested_of_spoilt {given : Option String} (lawful : console.IsLawful)
    (spoilt : ¬ console.Shows (given.getD settings.dedupScope)) :
    Reuse.requested settings given ∉ ["test", "run"] := by
  have plain : ∀ name ∈ ["", "test", "run"], '[' ∉ name.toList := by decide
  have shown {name : String} (known : name ∈ ["", "test", "run"]) : console.Shows name :=
    lawful.untagged (plain name known)
  have same : Reuse.requested settings given = given.getD settings.dedupScope := by
    rw [Reuse.requested_eq]
    cases given with
    | none => rfl
    | some name =>
      have filled : name ≠ "" := fun empty => spoilt (shown (by simp [empty]))
      simp [Option.filter, filled]
  rw [same]
  exact fun known => spoilt (shown (List.mem_cons_of_mem _ known))

theorem drawFile_of_spoilt (parser : Parser) {given : Option String} {source : Path} (lawful : console.IsLawful)
    (files : FileSystem) (out : Path) (spoilt : ¬ console.Shows (given.getD settings.dedupScope)) :
    ∃ failure, (drawFile parser settings given files source out).outcome = .error failure ∧
      (drawFile parser settings given files source out).files = files := by
  refine drawFile_of_not_draws out fun graph draws => ?_
  obtain ⟨text, -, drawn⟩ := draws
  exact flowOfSource_unknown (requested_of_spoilt lawful spoilt) graph drawn

section

variable (lawful : console.IsLawful) (parser : Parser)

include lawful

theorem Run.fail_eq (run : Run) (failure : Failure) :
    (run.fail console false failure).ending = .exit 1 ∧ (run.fail console false failure).files = run.files := by
  have shown : ∀ line ∈ [failureLine console failure], console.Shows line := by
    simpa using lawful.shows_failureLine failure
  rw [Run.fail, if_neg Bool.false_ne_true, Run.say, Run.showing_shown _ _ _ shown]
  exact ⟨rfl, rfl⟩

theorem Run.conclude_eq (run : Run) (request : Request) (graph : Graph) (shown : console.Shows out.text) :
    (run.conclude console request out graph).ending = .exit 0 ∧
      (run.conclude console request out graph).files = run.files := by
  obtain ⟨echo, echoed⟩ : ∃ echo, (if request.isQuiet then .ok "" else console.verbatim graph.text) = .ok echo := by
    cases request.isQuiet with
    | true => exact ⟨"", rfl⟩
    | false => exact lawful.accepts graph.text
  simp only [Run.conclude, echoed]
  rw [Run.showing_shown _ _ _ (lawful.shows_closingLines_iff.mpr shown)]
  exact ⟨rfl, rfl⟩

theorem Run.draw_follows (run : Run) (plainRun : request.isDebug = false) (shown : console.Shows out.text) :
    (run.draw parser console settings request out).Follows
      (drawFile parser settings request.dedupScope run.files request.file out) := by
  generalize reported : drawFile parser settings request.dedupScope run.files request.file out = report
  rw [Run.draw, reported, plainRun]
  cases came : report.outcome with
  | error failure =>
    obtain ⟨ended, same⟩ := Run.fail_eq lawful { run with journal := report.journal, files := report.files } failure
    exact ⟨by simp [ended, came], by simp [ended, came], same⟩
  | ok graph =>
    obtain ⟨ended, same⟩ :=
      Run.conclude_eq lawful { run with journal := report.journal, files := report.files } request graph shown
    exact ⟨by simp [ended, came], by simp [ended, came], same⟩

/-- A line before the work that is spoilt ends the run. -/
theorem perform_of_spoilt (files : FileSystem) (plainRun : request.isDebug = false)
    (hidden : ¬ ∀ line ∈ openingLines request settings out, console.Shows line) :
    (perform parser console settings files false request out).ending = .exit 1 ∧
      (perform parser console settings files false request out).files = files := by
  obtain ⟨failure, went⟩ := Run.showing_spoilt _ _ _ hidden
  rw [perform, went, plainRun]
  exact Run.fail_eq lawful _ failure

theorem perform_of_shown (files : FileSystem) (plainRun : request.isDebug = false)
    (shown : ∀ line ∈ openingLines request settings out, console.Shows line) :
    (perform parser console settings files false request out).Follows
      (drawFile parser settings request.dedupScope files request.file out) := by
  rw [perform, Run.showing_shown _ _ _ shown, if_neg Bool.false_ne_true]
  exact Run.draw_follows lawful parser _ plainRun (lawful.shows_openingLines_iff.mp shown).2.2

end

end

/-- When the outcome of a run is that of the drawing, on a console that obeys the laws. If both paths can be shown, a
run that does not debug ends with the exit code of success exactly if the file is drawn and with that of failure exactly
if it is not, and it leaves the files that the drawing leaves. If one of them cannot, it ends with the exit code of
failure and changes nothing; that is the outcome of the drawing only if the drawing fails too and changes nothing. -/
theorem run_follows_drawing_iff {console : Console} (lawful : console.IsLawful) (parser : Parser)
    {environment : Environment} {arguments : List String} {request : Request} {out : Path}
    (read : readRequest environment arguments = .ok request) (resolved : outPath environment request = .ok out)
    (plainRun : request.isDebug = false) (files : FileSystem) :
    ∃ ran report, run parser console environment files false arguments = ran ∧
      drawFile parser environment.settings request.dedupScope files request.file out = report ∧
      (ran.Follows report ↔
        (console.Shows request.file.text ∧ console.Shows out.text) ∨
          ((∃ failure, report.outcome = .error failure) ∧ report.files = files)) ∧
      (¬ (console.Shows request.file.text ∧ console.Shows out.text) → ran.ending = .exit 1 ∧ ran.files = files) := by
  have performed : run parser console environment files false arguments =
      perform parser console environment.settings files false request out := by
    simp only [run, read, resolved]
  refine ⟨_, _, performed, rfl, ?_⟩
  by_cases shown : ∀ line ∈ openingLines request environment.settings out, console.Shows line
  · have follows := perform_of_shown lawful parser files plainRun shown
    obtain ⟨fileShown, -, outShown⟩ := lawful.shows_openingLines_iff.mp shown
    exact ⟨⟨fun _ => .inl ⟨fileShown, outShown⟩, fun _ => follows⟩,
      fun hidden => absurd ⟨fileShown, outShown⟩ hidden⟩
  · have ended := perform_of_spoilt lawful parser files plainRun shown
    refine ⟨⟨fun follows => ?_, fun when => ?_⟩, fun _ => ended⟩
    · exact .inr ⟨follows.fails.mp ended.1, follows.files.symm.trans ended.2⟩
    · rcases when with ⟨fileShown, outShown⟩ | ⟨⟨failure, failed⟩, same⟩
      · have spoilt : ¬ console.Shows (request.dedupScope.getD environment.settings.dedupScope) :=
          fun scopeShown => shown (lawful.shows_openingLines_iff.mpr ⟨fileShown, scopeShown, outShown⟩)
        obtain ⟨failure, failed, same⟩ := drawFile_of_spoilt parser lawful files out spoilt
        exact .of_failure ended failed same
      · exact .of_failure ended failed same

/-- A user without a home, in the directory of the sample disk. -/
def sampleUser : Environment :=
  { settings := {}, workingDirectory := some ["W"], home? := fun _ => none }

/-- The sample file is drawn to any path that nothing is in the way of. -/
theorem sampleDisk_drawn (out : Path) (plain : ".." ∉ out.names) (takes : sampleDisk.naming.Takes out.names)
    (free : ¬ sampleDisk.Blocked out.names) :
    ∃ graph, (drawFile parse {} none sampleDisk (.rooted ["W", "s.js"]) out).outcome = .ok graph := by
  have ended := drawingEnds_drawFile parse {} none (.rooted ["W", "s.js"]) sampleDisk_isTree plain
  generalize drawFile parse {} none sampleDisk (.rooted ["W", "s.js"]) out = report at ended
  obtain ⟨outcome, journal, after⟩ := report
  cases ended with
  | written => exact ⟨_, rfl⟩
  | undrawn failure undrawn =>
    obtain ⟨graph, draws⟩ := sampleDisk_draws
    exact absurd draws (undrawn graph)
  | abandoned failure draws abandoned =>
    cases abandoned with
    | refused reason => exact absurd reason (not_or_intro free (not_not_intro takes))
    | emptied held => exact absurd held (sampleDisk_encodes _)

/-- What the sample user asks for: a diagram of the sample file, at a path. -/
def sampleRequest (out : Path) : Request :=
  { file := .rooted ["W", "s.js"], out := some out, dedupScope := none
    isQuiet := true, isVerbose := false, isDebug := false }

/-- Ordinary paths: the drawing succeeds, and so does the run. -/
theorem run_of_sample_disk :
    Markup.console.IsLawful ∧
      ∃ out, readRequest sampleUser ["--file", "/W/s.js", "--out", "/W/new/s.mermaid", "--quiet"] =
          .ok (sampleRequest out) ∧
        outPath sampleUser (sampleRequest out) = .ok out ∧ (sampleRequest out).isDebug = false ∧
        Markup.console.Shows (sampleRequest out).file.text ∧ Markup.console.Shows out.text ∧
        (run parse Markup.console sampleUser sampleDisk false
          ["--file", "/W/s.js", "--out", "/W/new/s.mermaid", "--quiet"]).ending = .exit 0 := by
  let out := Path.rooted ["W", "new", "s.mermaid"]
  have lawful := Markup.console_isLawful
  have read : readRequest sampleUser ["--file", "/W/s.js", "--out", "/W/new/s.mermaid", "--quiet"] =
      .ok (sampleRequest out) := rfl
  have resolved : outPath sampleUser (sampleRequest out) = .ok out := rfl
  have plainRun : (sampleRequest out).isDebug = false := rfl
  have fileShown : Markup.console.Shows (sampleRequest out).file.text := lawful.untagged (by decide)
  have outShown : Markup.console.Shows out.text := lawful.untagged (by decide)
  have takes : sampleDisk.naming.Takes out.names := ⟨⟨by decide, by decide⟩, by decide⟩
  have drawn := sampleDisk_drawn out (by decide) takes (sampleDisk_free (by decide) (by decide))
  obtain ⟨_, report, rfl, drew, follows_iff, -⟩ :=
    run_follows_drawing_iff lawful parse read resolved plainRun sampleDisk
  have follows := follows_iff.mpr (.inl ⟨fileShown, outShown⟩)
  refine ⟨lawful, out, read, resolved, plainRun, fileShown, outShown, follows.succeeds.mpr ?_⟩
  rw [← drew]
  exact drawn

/-- A closing tag in the name of the diagram: the drawing would succeed, but the run fails before it. -/
theorem run_spoilt_by_name :
    Markup.console.IsLawful ∧
      ∃ out, readRequest sampleUser ["--file", "/W/s.js", "--out", "/tmp/a[/b].mermaid", "--quiet"] =
          .ok (sampleRequest out) ∧
        outPath sampleUser (sampleRequest out) = .ok out ∧ (sampleRequest out).isDebug = false ∧
        (∃ graph, (drawFile parse {} none sampleDisk (sampleRequest out).file out).outcome = .ok graph) ∧
        (run parse Markup.console sampleUser sampleDisk false
          ["--file", "/W/s.js", "--out", "/tmp/a[/b].mermaid", "--quiet"]).ending = .exit 1 := by
  let out := Path.rooted ["tmp", "a[", "b].mermaid"]
  have lawful := Markup.console_isLawful
  have read : readRequest sampleUser ["--file", "/W/s.js", "--out", "/tmp/a[/b].mermaid", "--quiet"] =
      .ok (sampleRequest out) := rfl
  have resolved : outPath sampleUser (sampleRequest out) = .ok out := rfl
  have takes : sampleDisk.naming.Takes out.names := ⟨⟨by decide, by decide⟩, by decide⟩
  have drawn := sampleDisk_drawn out (by decide) takes (sampleDisk_free (by decide) (by decide))
  have hidden : ¬ Markup.console.Shows out.text := by
    have name : out.text = "/tmp/a" ++ "[/" ++ "b" ++ "]" ++ ".mermaid" := by decide
    rw [name]
    exact lawful.stray (by decide) (by decide)
  refine ⟨lawful, out, read, resolved, rfl, drawn, ?_⟩
  simp only [run, read, resolved]
  exact (perform_of_spoilt lawful parse sampleDisk rfl fun shown =>
    hidden (lawful.shows_openingLines_iff.mp shown).2.2).1

end TestFlow.CommandLine

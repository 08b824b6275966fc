import TestFlow.Proofs.Placement

/-! # What comes of a tree

Three things stop the drawing of a tree, and they are looked at in this order: the name of the language,
the flag at the root of the tree, and the name of the reuse. Past them every tree has a diagram. A builder
could refuse an operation when it is finished, and an action that starts a test has no look as a node; no
walk gets as far as either.
-/

namespace TestFlow

open Syntax Diagram Source

/-! ## Checks -/

section

variable {language : String} {root : Syntax.Node} {settings : Settings} {given : Option String}

theorem acceptTree_unsupported (unsupported : language ∉ ["javascript", "typescript", "tsx"]) :
    acceptTree language root = .error (.unsupportedLanguage language) := by
  have unknown : Language.ofName? language = none := by
    rw [← Option.not_isSome_iff_eq_none, Language.isSome_ofName?]
    exact unsupported
  simp only [acceptTree, Language.ofName, unknown, bind, Except.bind]

theorem acceptTree_supported (supported : language ∈ ["javascript", "typescript", "tsx"]) :
    acceptTree language root = checkTree root := by
  obtain ⟨known, found⟩ := Option.isSome_iff_exists.mp ((Language.isSome_ofName? language).mpr supported)
  simp only [acceptTree, Language.ofName, found, bind, Except.bind]

theorem checkTree_flagged (flagged : root.hasError = true) :
    checkTree root = .error (.malformedSource (root.firstBad?.getD root).fault) := by
  simp only [checkTree, Node.fault?, flagged, if_true]

theorem checkTree_sound (sound : root.hasError = false) : checkTree root = .ok root := by
  simp only [checkTree, Node.fault?, sound, Bool.false_eq_true, if_false]

theorem start_unknown (unknown : Reuse.requested settings given ∉ ["test", "run"]) :
    Builder.start settings given = .error (.unknownDedupScope (Reuse.requested settings given)) := by
  have none : Reuse.ofName? (Reuse.requested settings given) = none := by
    rw [← Option.not_isSome_iff_eq_none, Reuse.isSome_ofName?]
    exact unknown
  simp only [Builder.start, Reuse.choose, none, Except.map]

theorem start_known (known : Reuse.requested settings given ∈ ["test", "run"]) :
    ∃ builder, Builder.start settings given = .ok builder := by
  obtain ⟨reuse, found⟩ := Option.isSome_iff_exists.mp ((Reuse.isSome_ofName? _).mpr known)
  simp [Builder.start, Reuse.choose, found, Except.map]

end

/-- The four outcomes and what each of them takes. -/
theorem flowOfTree_cases (settings : Settings) (given : Option String) (language : String)
    (root : Syntax.Node) :
    (language ∉ ["javascript", "typescript", "tsx"] ∧
      flowOfTree settings given language root = .error (.unsupportedLanguage language)) ∨
    (language ∈ ["javascript", "typescript", "tsx"] ∧ root.hasError = true ∧
      flowOfTree settings given language root =
        .error (.malformedSource (root.firstBad?.getD root).fault)) ∨
    (language ∈ ["javascript", "typescript", "tsx"] ∧ root.hasError = false ∧
      Reuse.requested settings given ∉ ["test", "run"] ∧
      flowOfTree settings given language root =
        .error (.unknownDedupScope (Reuse.requested settings given))) ∨
    (language ∈ ["javascript", "typescript", "tsx"] ∧ root.hasError = false ∧
      Reuse.requested settings given ∈ ["test", "run"] ∧
      ∃ graph, flowOfTree settings given language root = .ok graph) := by
  by_cases supported : language ∈ ["javascript", "typescript", "tsx"]
  · cases flagged : root.hasError with
    | true =>
      have refused := (acceptTree_supported supported).trans (checkTree_flagged flagged)
      exact .inr (.inl ⟨supported, rfl, by simp only [flowOfTree, refused, bind, Except.bind]⟩)
    | false =>
      have accepted := (acceptTree_supported supported).trans (checkTree_sound flagged)
      by_cases known : Reuse.requested settings given ∈ ["test", "run"]
      · obtain ⟨builder, started⟩ := start_known known
        obtain ⟨graph, drawn, -⟩ := flowOfTree_eq_run accepted started
        exact .inr (.inr (.inr ⟨supported, rfl, known, graph, drawn⟩))
      · have refused := start_unknown known
        exact .inr (.inr (.inl ⟨supported, rfl, known,
          by simp only [flowOfTree, accepted, draw, refused, bind, Except.bind]⟩))
  · have refused : acceptTree language root = .error (.unsupportedLanguage language) :=
      acceptTree_unsupported supported
    exact .inl ⟨supported, by simp only [flowOfTree, refused, bind, Except.bind]⟩

/-! ## Events -/

/-- An event that declares a node enters a call whose action has a key, and the node looks as the key
says. -/
theorem drawEvent_nodes {settings : Settings} {builder next : Builder} {event : Event}
    (running : builder.phase ≠ .finished) (drawn : drawEvent settings builder event = .ok next) :
    next.nodes = builder.nodes ∨
      ∃ call action key, event = .enter call ∧ classify settings call = .action action ∧
        action.key? = some key ∧
        next.nodes = builder.nodes ++ [⟨builder.nextId key.kind, stepLabel key⟩] := by
  cases asked : request? settings event with
  | none =>
    obtain ⟨other, noted, still⟩ := drawEvent_of_silent settings asked builder
    obtain rfl := Except.ok.inj (noted.symm.trans drawn)
    have same : other.silenced.nodes = builder.silenced.nodes := congrArg Builder.nodes still
    exact .inl same
  | some operation =>
    rw [drawEvent_of_request settings asked] at drawn
    obtain ⟨other, done, move⟩ := Move.of_perform running (request?_ne_finish settings asked)
    obtain rfl := Except.ok.inj (done.symm.trans drawn)
    cases move with
    | opened opened => exact .inl (builder.openTest_nodes _)
    | closed => exact .inl builder.closeTest_nodes
    | @stepped kind action isStep =>
      -- Starts of tests have gone another way, so that the action has a key.
      obtain ⟨call, rfl, reading⟩ := enter_of_request settings asked
      have key : action.key? = some (stepKey kind action) := by simp [Action.key?, isStep, stepKey]
      rw [Builder.takeStep_nodes]
      rcases builder.nodeFor_cases kind action with ⟨-, declared⟩ | ⟨-, -, shared⟩
      · exact .inr ⟨call, action, _, rfl, reading, key, by rw [declared]; rfl⟩
      · exact .inl (by rw [shared]; exact List.append_nil _)

/-- Whatever the tree, drawing it fails in three ways only. It fails for the language if that is none of the
three; else for the source if the root is flagged; else for the reuse if the name asked for, which is the
one given unless that is missing or empty, is neither of the two; and else there is a graph. No event finds
the builder finished, and none declares a node for an action without a key. -/
theorem outcome_of_tree (settings : Settings) (given : Option String) (language : String)
    (root : Syntax.Node) :
    ∃ scope, scope = (given.filter (· ≠ "")).getD settings.dedupScope ∧
      (∀ failure, flowOfTree settings given language root = .error failure ↔
        (language ∉ ["javascript", "typescript", "tsx"] ∧ failure = .unsupportedLanguage language) ∨
        (language ∈ ["javascript", "typescript", "tsx"] ∧ root.hasError = true ∧
          failure = .malformedSource (root.firstBad?.getD root).fault) ∨
        (language ∈ ["javascript", "typescript", "tsx"] ∧ root.hasError = false ∧
          scope ∉ ["test", "run"] ∧ failure = .unknownDedupScope scope)) ∧
      ((∃ graph, flowOfTree settings given language root = .ok graph) ↔
        language ∈ ["javascript", "typescript", "tsx"] ∧ root.hasError = false ∧
          scope ∈ ["test", "run"]) ∧
      ∀ builder, Builder.start settings given = .ok builder →
        ∀ before event after, testEvents settings root = before ++ event :: after →
        ∃ reached next, before.foldlM (drawEvent settings) builder = .ok reached ∧
          drawEvent settings reached event = .ok next ∧ next.phase ≠ .finished ∧
          (next.nodes = reached.nodes ∨
            ∃ call action key, event = .enter call ∧ classify settings call = .action action ∧
              action.key? = some key ∧
              next.nodes = reached.nodes ++ [⟨reached.nextId key.kind, stepLabel key⟩]) := by
  refine ⟨Reuse.requested settings given, Reuse.requested_eq settings given, ?_, ?_, ?_⟩
  · intro failure
    rcases flowOfTree_cases settings given language root with
      ⟨unsupported, came⟩ | ⟨supported, flagged, came⟩ | ⟨supported, sound, unknown, came⟩ |
      ⟨supported, sound, known, graph, came⟩
    · simp [came, unsupported, @eq_comm _ failure]
    · simp [came, supported, flagged, @eq_comm _ failure]
    · simp [came, supported, sound, unknown, @eq_comm _ failure]
    · simp [came, supported, sound, known]
  · rcases flowOfTree_cases settings given language root with
      ⟨unsupported, came⟩ | ⟨supported, flagged, came⟩ | ⟨supported, sound, unknown, came⟩ |
      ⟨supported, sound, known, graph, came⟩
    · simp [came, unsupported]
    · simp [came, flagged]
    · simp [came, unknown]
    · simp [came, supported, sound, known]
  · intro builder started before event after split
    obtain ⟨reached, drawn, along⟩ := (Agrees.of_start started).draw settings before
    obtain ⟨next, done, further⟩ := along.drawEvent settings event
    exact ⟨reached, next, drawn, done, further.running, drawEvent_nodes along.running done⟩

/-- An empty name stands for the one of the settings; another unknown name is refused. -/
theorem outcome_of_sample_tree :
    (∃ graph, flowOfTree {} (some "") "tsx" sampleTree = .ok graph) ∧
      flowOfTree {} (some "file") "tsx" sampleTree = .error (.unknownDedupScope "file") := by
  obtain ⟨empty, asked, -, drawn, -⟩ := outcome_of_tree {} (some "") "tsx" sampleTree
  obtain ⟨file, named, fails, -⟩ := outcome_of_tree {} (some "file") "tsx" sampleTree
  subst asked named
  constructor
  · exact drawn.mpr ⟨by decide, rfl, by decide⟩
  · exact (fails _).mpr (.inr (.inr ⟨by decide, rfl, by decide, rfl⟩))

end TestFlow

import TestFlow.Proofs.CommandLine.Outcome

/-! # Failures that no exit code stands for

A run that does not debug turns a failure of its work into an exit code. What can fail before the work is left out:
the path of an option, the path that the diagram has by default, and the text of the help. These failures leave the
run as they are, and nothing else does.
-/

namespace TestFlow.CommandLine

open Source Text

/-! ## Paths that cannot be resolved -/

/-- A path that starts from the home of a user who has none. -/
def Environment.HasNoHome (environment : Environment) (path : Path) : Prop :=
  path.isRooted = false ∧ ∃ first rest user, path.names = first :: rest ∧ first.toList = '~' :: user ∧
    environment.naming.canHold first = true ∧
    ∀ home, environment.home? (.ofList user) = some home → home.toList.head? = some '~'

/-- A text that is resolved to no path: it starts from a home that is not there, the system cannot be asked for it, it
is relative in a directory that is gone, or it leads in a circle of links. -/
inductive Environment.Unreachable (environment : Environment) (text : String) : PathProblem → Prop where
  | unknownHome (homeless : environment.HasNoHome (.ofText text)) : Unreachable environment text .unknownHome
  | refused {failure : Failure} (housed : ¬ environment.HasNoHome (.ofText text))
      (refusal : environment.refusal? (.ofText text) = some failure) :
      Unreachable environment text (.refused failure)
  | noWorkingDirectory {path : Path} (expanded : environment.expandHome (.ofText text) = .ok path)
      (held : ∀ name ∈ (Path.ofText text).names, environment.naming.canHold name = true)
      (relative : path.isRooted = false) (gone : environment.workingDirectory = none) :
      Unreachable environment text .noWorkingDirectory
  | linkLoop {path : Path} {names place : List String} (expanded : environment.expandHome (.ofText text) = .ok path)
      (held : ∀ name ∈ (Path.ofText text).names, environment.naming.canHold name = true)
      (rooted : environment.fromRoot path = .ok names) (circular : environment.follow names = .error place) :
      Unreachable environment text (.linkLoop (.rooted place))

section

variable {environment : Environment} {path : Path} {text : String} {problem : PathProblem}

theorem refusal?_eq_none_iff : environment.refusal? path = none ↔
    ∀ name ∈ path.names, environment.naming.canHold name = true :=
  Naming.refusal?_eq_none_iff

theorem hasNoHome_iff {first : String} {rest : List String} {user : List Char} (relative : path.isRooted = false)
    (names : path.names = first :: rest) (tilde : first.toList = '~' :: user) :
    environment.HasNoHome path ↔
      environment.naming.canHold first = true ∧
        ∀ home, environment.home? (.ofList user) = some home → home.toList.head? = some '~' := by
  constructor
  · rintro ⟨-, first', rest', user', names', tilde', homeless⟩
    obtain ⟨rfl, rfl⟩ := List.cons.inj (names.symm.trans names')
    obtain ⟨-, rfl⟩ := List.cons.inj (tilde.symm.trans tilde')
    exact homeless
  · exact fun homeless => ⟨relative, first, rest, user, names, tilde, homeless⟩

/-- A path starts from a home that is not there, or it is expanded. -/
theorem expandHome_cases (environment : Environment) (path : Path) :
    environment.HasNoHome path ∧ environment.expandHome path = .error .unknownHome ∨
      ¬ environment.HasNoHome path ∧ ∃ expanded, environment.expandHome path = .ok expanded := by
  unfold Environment.expandHome
  split
  · rename_i first rest relative names
    split
    · rename_i user tilde
      rw [hasNoHome_iff relative names tilde]
      have asked : environment.refusal? ⟨false, [first]⟩ = none ↔ environment.naming.canHold first = true := by
        simp [refusal?_eq_none_iff]
      cases refused : environment.refusal? ⟨false, [first]⟩ with
      | some failure =>
        refine .inr ⟨fun homeless => ?_, path, rfl⟩
        rw [asked.mpr homeless.1] at refused
        cases refused
      | none =>
        have held := asked.mp refused
        cases known : environment.home? (.ofList user) with
        | none => exact .inl ⟨⟨held, nofun⟩, rfl⟩
        | some home =>
          by_cases lost : home.toList.head? = some '~'
          · exact .inl ⟨⟨held, by simpa using lost⟩, by simp [lost]⟩
          · refine .inr ⟨fun homeless => lost (homeless.2 home rfl), ?_⟩
            exact ⟨(homePath home).below ⟨false, rest⟩, by simp [lost]⟩
    · rename_i noTilde
      refine .inr ⟨?_, path, rfl⟩
      rintro ⟨-, first', rest', user, names', tilde, -⟩
      obtain ⟨rfl, rfl⟩ := List.cons.inj (names.symm.trans names')
      exact noTilde user tilde
  · rename_i other
    refine .inr ⟨?_, path, rfl⟩
    rintro ⟨relative, first, rest, user, names, -⟩
    exact other first rest relative names

theorem fromRoot_eq_error_iff : environment.fromRoot path = .error problem ↔
    path.isRooted = false ∧ environment.workingDirectory = none ∧ problem = .noWorkingDirectory := by
  unfold Environment.fromRoot
  cases path.isRooted <;> cases environment.workingDirectory <;> simp [eq_comm]

theorem resolve_of_error (failed : environment.expandHome (.ofText text) = .error problem) :
    environment.resolve text = .error problem := by
  rw [Environment.resolve, failed]
  rfl

theorem resolve_of_refusal {failure : Failure} (expanded : environment.expandHome (.ofText text) = .ok path)
    (refused : environment.refusal? (.ofText text) = some failure) :
    environment.resolve text = .error (.refused failure) := by
  rw [Environment.resolve, expanded]
  simp only [bind, Except.bind, refused]
  rfl

theorem resolve_of_ok (expanded : environment.expandHome (.ofText text) = .ok path)
    (asked : environment.refusal? (.ofText text) = none) :
    environment.resolve text = (environment.fromRoot path).bind fun names =>
      match environment.follow names with
      | .ok place => .ok (.rooted place)
      | .error place => .error (.linkLoop (.rooted place)) := by
  rw [Environment.resolve, expanded]
  simp only [bind, Except.bind, asked]
  rfl

theorem Environment.Unreachable.resolve (unreachable : environment.Unreachable text problem) :
    environment.resolve text = .error problem := by
  cases unreachable with
  | unknownHome homeless =>
    rcases expandHome_cases environment (.ofText text) with ⟨-, failed⟩ | ⟨housed, -⟩
    · exact resolve_of_error failed
    · exact absurd homeless housed
  | refused housed refusal =>
    rcases expandHome_cases environment (.ofText text) with ⟨homeless, -⟩ | ⟨-, path, expanded⟩
    · exact absurd homeless housed
    · exact resolve_of_refusal expanded refusal
  | noWorkingDirectory expanded held relative gone =>
    have unrooted := fromRoot_eq_error_iff.mpr ⟨relative, gone, rfl⟩
    rw [resolve_of_ok expanded (refusal?_eq_none_iff.mpr held), unrooted]
    rfl
  | linkLoop expanded held rooted circular =>
    rw [resolve_of_ok expanded (refusal?_eq_none_iff.mpr held), rooted]
    simp only [Except.bind, circular]

theorem unreachable_of_resolve (failed : environment.resolve text = .error problem) :
    environment.Unreachable text problem := by
  rcases expandHome_cases environment (.ofText text) with ⟨homeless, lost⟩ | ⟨housed, path, expanded⟩
  · obtain rfl := Except.error.inj ((resolve_of_error lost).symm.trans failed)
    exact .unknownHome homeless
  · cases refused : environment.refusal? (.ofText text) with
    | some failure =>
      obtain rfl := Except.error.inj ((resolve_of_refusal expanded refused).symm.trans failed)
      exact .refused housed refused
    | none =>
      have held := refusal?_eq_none_iff.mp refused
      rw [resolve_of_ok expanded refused] at failed
      cases rooted : environment.fromRoot path with
      | error other =>
        obtain ⟨relative, gone, rfl⟩ := fromRoot_eq_error_iff.mp rooted
        rw [rooted] at failed
        obtain rfl := Except.error.inj failed
        exact .noWorkingDirectory expanded held relative gone
      | ok names =>
        cases followed : environment.follow names with
        | ok place => simp [rooted, followed, Except.bind] at failed
        | error place =>
          obtain rfl : PathProblem.linkLoop (.rooted place) = problem := by
            simpa [rooted, followed, Except.bind] using failed
          exact .linkLoop expanded held rooted followed

/-- What keeps a text from being resolved. -/
theorem resolve_eq_error_iff : environment.resolve text = .error problem ↔ environment.Unreachable text problem :=
  ⟨unreachable_of_resolve, Environment.Unreachable.resolve⟩

end

/-! ## Arguments that take effect -/

/-- Words that give a value to an option: in two words, or in one. -/
inductive Gives (choice : Choice) (value : String) : List Word → Prop where
  | apart : Gives choice value [.option choice .nothing, .plain value]
  | together : Gives choice value [.option choice (.value value)]

/-- Whether the value of an option is a path. -/
def Choice.takesPath : Choice → Bool
  | .file | .out => true
  | _ => false

/-- Whether a problem is complained of, as one of an argument. -/
def PathProblem.isSeen : PathProblem → Bool
  | .refused _ => true
  | _ => false

/-- The values that an option can have: paths that can be resolved, and the names of the reuse. -/
inductive Accepts (environment : Environment) : Choice → String → Prop where
  | path {choice : Choice} {value : String} {place : Path} (takesPath : choice.takesPath)
      (resolved : environment.resolve value = .ok place) : Accepts environment choice value
  | scope {value : String} (known : value ∈ ["test", "run"]) : Accepts environment .dedupScope value

/-- What is left over of a word that is no option. -/
def Word.leftOver? : Word → Option String
  | .plain text | .unknown text => some text
  | .dashes => some "--"
  | .option _ _ => none

/-- Words in which each option takes effect. -/
inductive TakesEffect (environment : Environment) : List Word → Prop where
  | nil : TakesEffect environment []
  | leftOver {word : Word} {text : String} {rest : List Word} (isOver : word.leftOver? = some text)
      (later : TakesEffect environment rest) : TakesEffect environment (word :: rest)
  | flag {choice : Choice} {rest : List Word} (isFlag : choice ∈ [.quiet, .verbose, .debug])
      (later : TakesEffect environment rest) : TakesEffect environment (.option choice .nothing :: rest)
  | value {choice : Choice} {value : String} {given rest : List Word} (gives : Gives choice value given)
      (accepted : Accepts environment choice value) (later : TakesEffect environment rest) :
      TakesEffect environment (given ++ rest)

/-- What comes of a value: it has its effect, it is a path that cannot be resolved, or it is complained of. -/
inductive Sets (environment : Environment) (draft : Draft) (choice : Choice) (value : String) :
    Except Stop Draft → Prop where
  | set {next : Draft} (accepted : Accepts environment choice value) (same : next.isDebug = draft.isDebug) :
      Sets environment draft choice value (.ok next)
  | unreachable {problem : PathProblem} (takesPath : choice.takesPath)
      (unreachable : environment.Unreachable value problem) (unseen : problem.isSeen = false) :
      Sets environment draft choice value (.error (.failed problem.failure))
  | misused (message : String) : Sets environment draft choice value (.error (.misuse message))

section

variable {environment : Environment} {draft next : Draft} {words before given rest : List Word}
  {choice : Choice} {value text : String} {failure : Failure} {problem : PathProblem} {word : Word}

theorem sets_path (takesPath : choice.takesPath) (set : Path → Draft)
    (same : ∀ place, (set place).isDebug = draft.isDebug) :
    Sets environment draft choice value ((environment.pathValue choice value).map set) := by
  unfold Environment.pathValue
  cases came : environment.resolve value with
  | ok place => exact .set (.path takesPath came) (same place)
  | error problem =>
    have unreachable := resolve_eq_error_iff.mp came
    cases problem with
    | refused failure => exact .misused _
    | unknownHome => exact .unreachable takesPath unreachable rfl
    | noWorkingDirectory => exact .unreachable takesPath unreachable rfl
    | linkLoop place => exact .unreachable takesPath unreachable rfl

theorem sets_setValue (environment : Environment) (draft : Draft) (takesValue : choice.takesValue) (value : String) :
    Sets environment draft choice value (draft.setValue environment choice value) := by
  cases choice with
  | file => exact sets_path rfl (fun place => { draft with file := some place }) fun _ => rfl
  | out => exact sets_path rfl (fun place => { draft with out := some place }) fun _ => rfl
  | dedupScope =>
    simp only [Draft.setValue]
    split
    · rename_i known
      exact .set (.scope (by simpa using known)) rfl
    · exact .misused _
  | _ => cases takesValue

theorem take_leftOver (isOver : word.leftOver? = some text) (draft : Draft) (rest : List Word) :
    draft.take environment (word :: rest) =
      (draft.take environment rest).map fun (last, extra) => (last, text :: extra) := by
  cases word with
  | option choice attached => cases isOver
  | _ =>
    cases isOver
    rw [Draft.take]
    cases draft.take environment rest <;> rfl

theorem take_flag (isFlag : choice.takesValue = false) (draft : Draft) (rest : List Word) :
    draft.take environment (.option choice .nothing :: rest) =
      (draft.setFlag choice).bind (·.take environment rest) := by
  conv_lhs => unfold Draft.take
  simp only [isFlag, Bool.false_eq_true, if_false]
  rfl

theorem take_given (takesValue : choice.takesValue) (gives : Gives choice value given) (draft : Draft)
    (rest : List Word) :
    draft.take environment (given ++ rest) =
      (draft.setValue environment choice value).bind (·.take environment rest) := by
  cases gives with
  | apart =>
    simp only [List.cons_append, List.nil_append, Draft.take, takesValue, if_true]
    rfl
  | together =>
    simp only [List.cons_append, List.nil_append, Draft.take, takesValue, if_true]
    rfl

theorem takesValue_of_takesPath (takesPath : choice.takesPath) : choice.takesValue := by
  cases choice with
  | file => rfl
  | out => rfl
  | _ => cases takesPath

theorem setValue_of_accepts (accepted : Accepts environment choice value) (draft : Draft) :
    ∃ next, draft.setValue environment choice value = .ok next := by
  cases accepted with
  | path takesPath resolved =>
    cases choice with
    | file => exact ⟨_, by simp only [Draft.setValue, Environment.pathValue, resolved]; rfl⟩
    | out => exact ⟨_, by simp only [Draft.setValue, Environment.pathValue, resolved]; rfl⟩
    | _ => cases takesPath
  | scope known => exact ⟨_, by simp only [Draft.setValue]; rw [if_pos (by simpa using known)]⟩

theorem setValue_of_unreachable (takesPath : choice.takesPath) (unreachable : environment.Unreachable value problem)
    (unseen : problem.isSeen = false) (draft : Draft) :
    draft.setValue environment choice value = .error (.failed problem.failure) := by
  have failed : environment.pathValue choice value = .error (.failed problem.failure) := by
    rw [Environment.pathValue, unreachable.resolve]
    cases problem with
    | refused failure => cases unseen
    | _ => rfl
  cases choice with
  | file => simp only [Draft.setValue, failed]; rfl
  | out => simp only [Draft.setValue, failed]; rfl
  | _ => cases takesPath

theorem TakesEffect.append (front : TakesEffect environment before) (back : TakesEffect environment rest) :
    TakesEffect environment (before ++ rest) := by
  induction front with
  | nil => exact back
  | leftOver isOver _ ih => exact .leftOver isOver ih
  | flag isFlag _ ih => exact .flag isFlag ih
  | value gives accepted _ ih =>
    rw [List.append_assoc]
    exact .value gives accepted ih

theorem map_append_nil (outcome : Except Stop (Draft × List String)) :
    outcome.map (fun (last, more) => (last, [] ++ more)) = outcome := by
  cases outcome <;> rfl

/-- Words that take effect are followed by the rest. -/
theorem TakesEffect.take_append (effect : TakesEffect environment before) (draft : Draft) (rest : List Word) :
    ∃ (reached : Draft) (extra : List String), draft.take environment (before ++ rest) =
      (reached.take environment rest).map fun (last, more) => (last, extra ++ more) := by
  induction effect generalizing draft with
  | nil =>
    refine ⟨draft, [], ?_⟩
    rw [List.nil_append, map_append_nil]
  | @leftOver word text later isOver _ ih =>
    obtain ⟨reached, extra, taken⟩ := ih draft
    refine ⟨reached, text :: extra, ?_⟩
    rw [List.cons_append, take_leftOver isOver, taken]
    cases reached.take environment rest <;> rfl
  | @flag choice later isFlag _ ih =>
    obtain ⟨next, set⟩ : ∃ next, draft.setFlag choice = .ok next := by
      simp only [List.mem_cons, List.not_mem_nil, or_false] at isFlag
      rcases isFlag with rfl | rfl | rfl <;> exact ⟨_, rfl⟩
    have bare : choice.takesValue = false := by
      simp only [List.mem_cons, List.not_mem_nil, or_false] at isFlag
      rcases isFlag with rfl | rfl | rfl <;> rfl
    obtain ⟨reached, extra, taken⟩ := ih next
    refine ⟨reached, extra, ?_⟩
    rw [List.cons_append, take_flag bare, set]
    exact taken
  | @value choice value given later gives accepted _ ih =>
    obtain ⟨next, set⟩ := setValue_of_accepts accepted draft
    have takesValue : choice.takesValue := by
      cases accepted with
      | path takesPath _ => exact takesValue_of_takesPath takesPath
      | scope _ => rfl
    obtain ⟨reached, extra, taken⟩ := ih next
    refine ⟨reached, extra, ?_⟩
    rw [List.append_assoc, take_given takesValue gives, set]
    exact taken

end

/-- The first option that does not take effect has a path that cannot be resolved, for a reason that is not
complained of. -/
inductive FailsAt (environment : Environment) : List Word → PathProblem → Prop where
  | value {before given : List Word} {choice : Choice} {value : String} {problem : PathProblem}
      (effect : TakesEffect environment before) (gives : Gives choice value given) (takesPath : choice.takesPath)
      (unreachable : environment.Unreachable value problem) (unseen : problem.isSeen = false) (after : List Word) :
      FailsAt environment (before ++ (given ++ after)) problem

/-- What comes of words: all of them take effect, or a path fails, or help is asked for, or a word is complained
of. -/
inductive Taken (environment : Environment) (draft : Draft) (words : List Word) :
    Except Stop (Draft × List String) → Prop where
  | effect {last : Draft} {extra : List String} (effect : TakesEffect environment words)
      (same : .option .debug .nothing ∉ words → last.isDebug = draft.isDebug) :
      Taken environment draft words (.ok (last, extra))
  | failed {problem : PathProblem} (fails : FailsAt environment words problem) :
      Taken environment draft words (.error (.failed problem.failure))
  | help : Taken environment draft words (.error .help)
  | misused (message : String) : Taken environment draft words (.error (.misuse message))

section

variable {environment : Environment} {draft next : Draft} {words before given rest : List Word}
  {choice : Choice} {value text : String} {failure : Failure} {problem : PathProblem} {word : Word}

theorem FailsAt.prepend (effect : TakesEffect environment before) (fails : FailsAt environment rest problem) :
    FailsAt environment (before ++ rest) problem := by
  cases fails with
  | value earlier gives takesPath unreachable unseen after =>
    rw [← List.append_assoc]
    exact .value (effect.append earlier) gives takesPath unreachable unseen after

theorem Taken.prepend {outcome : Except Stop (Draft × List String)} (effect : TakesEffect environment before)
    (same : .option .debug .nothing ∉ before → next.isDebug = draft.isDebug) (extra : List String)
    (taken : Taken environment next rest outcome) :
    Taken environment draft (before ++ rest) (outcome.map fun (last, more) => (last, extra ++ more)) := by
  cases taken with
  | effect later still =>
    refine .effect (effect.append later) fun silent => ?_
    rw [List.mem_append, not_or] at silent
    exact (still silent.2).trans (same silent.1)
  | failed fails => exact .failed (fails.prepend effect)
  | help => exact .help
  | misused message => exact .misused message

theorem joinedToHelp_cases (text : List Char) :
    joinedToHelp text = .help ∨ ∃ message, joinedToHelp text = .misuse message := by
  fun_induction joinedToHelp text with
  | case1 => exact .inl rfl
  | case2 value => exact .inr ⟨_, rfl⟩
  | case3 rest _ ih => exact ih
  | case4 rest => exact .inr ⟨_, rfl⟩
  | case5 => exact .inl rfl

theorem taken_leftOver (isOver : word.leftOver? = some text) {outcome : Except Stop (Draft × List String)}
    (taken : Taken environment draft rest outcome) :
    Taken environment draft (word :: rest) (outcome.map fun (last, extra) => (last, text :: extra)) := by
  have effect : TakesEffect environment [word] := .leftOver isOver .nil
  exact taken.prepend effect (fun _ => rfl) [text]

theorem taken_flag (isFlag : choice.takesValue = false)
    (later : ∀ next : Draft, Taken environment next rest (next.take environment rest)) :
    Taken environment draft (.option choice .nothing :: rest)
      ((draft.setFlag choice).bind (·.take environment rest)) := by
  have set (isSet : choice ∈ [.quiet, .verbose, .debug]) {next : Draft} (came : draft.setFlag choice = .ok next)
      (same : choice ≠ .debug → next.isDebug = draft.isDebug) :
      Taken environment draft (.option choice .nothing :: rest)
        ((draft.setFlag choice).bind (·.take environment rest)) := by
    have effect : TakesEffect environment [.option choice .nothing] := .flag isSet .nil
    have silent : .option .debug .nothing ∉ [Word.option choice .nothing] → next.isDebug = draft.isDebug :=
      fun other => same fun isDebug => other (by simp [isDebug])
    have taken := (later next).prepend effect silent []
    rw [map_append_nil] at taken
    rw [came]
    exact taken
  cases choice with
  | help => exact .help
  | quiet => exact set (by decide) rfl fun _ => rfl
  | verbose => exact set (by decide) rfl fun _ => rfl
  | debug => exact set (by decide) rfl fun other => absurd rfl other
  | _ => cases isFlag

theorem taken_given (takesValue : choice.takesValue) (gives : Gives choice value given)
    (later : ∀ next : Draft, Taken environment next rest (next.take environment rest)) :
    Taken environment draft (given ++ rest)
      ((draft.setValue environment choice value).bind (·.take environment rest)) := by
  have sets := sets_setValue environment draft takesValue value
  generalize draft.setValue environment choice value = came at sets ⊢
  cases sets with
  | @set next accepted same =>
    have effect : TakesEffect environment given := by
      rw [← List.append_nil given]
      exact .value gives accepted .nil
    have taken := (later next).prepend effect (fun _ => same) []
    rw [map_append_nil] at taken
    exact taken
  | unreachable takesPath unreachable unseen => exact .failed (.value .nil gives takesPath unreachable unseen rest)
  | misused message => exact .misused message

theorem taken_take (environment : Environment) (draft : Draft) (words : List Word) :
    Taken environment draft words (draft.take environment words) := by
  fun_induction Draft.take environment draft words with
  | case1 => exact .effect .nil fun _ => rfl
  | case2 draft text rest ih => exact taken_leftOver rfl ih
  | case3 draft rest ih => exact taken_leftOver rfl ih
  | case4 draft text rest ih => exact taken_leftOver rfl ih
  | case5 draft choice takesValue value rest ih => exact taken_given takesValue .apart ih
  | case6 => exact .misused _
  | case7 draft choice rest isFlag ih => exact taken_flag (by simpa using isFlag) ih
  | case8 draft choice value rest takesValue ih => exact taken_given takesValue .together ih
  | case9 => exact .misused _
  | case10 draft choice text rest =>
    rcases joinedToHelp_cases text with help | ⟨message, misused⟩
    · rw [help]
      exact .help
    · rw [misused]
      exact .misused message

/-- Words fail at the first option that does not take effect, if it has a path that cannot be resolved. -/
theorem take_eq_failed_iff :
    draft.take environment words = .error (.failed failure) ↔
      ∃ problem, FailsAt environment words problem ∧ problem.failure = failure := by
  constructor
  · intro failed
    have taken := taken_take environment draft words
    rw [failed] at taken
    cases taken with
    | failed fails => exact ⟨_, fails, rfl⟩
  · rintro ⟨problem, fails, rfl⟩
    cases fails with
    | value effect gives takesPath unreachable unseen after =>
      obtain ⟨reached, extra, taken⟩ := effect.take_append draft _
      rw [taken, take_given (takesValue_of_takesPath takesPath) gives,
        setValue_of_unreachable takesPath unreachable unseen]
      rfl

end

/-! ## Requests -/

/-- Arguments that ask for the failures themselves instead of exit codes. -/
def AsksDebug (arguments : List String) : Prop :=
  ∃ words, readWords arguments = .ok words ∧ .option .debug .nothing ∈ words

section

variable {environment : Environment} {arguments : List String} {words : List Word} {request : Request}
  {failure : Failure}

/-- An argument that cannot be told apart is complained of. -/
theorem readWords_ne_failed : readWords arguments ≠ .error (.failed failure) := by
  have word (argument : String) : readWord argument ≠ .error (.failed failure) := by
    unfold readWord
    split
    · unfold readLong
      grind
    · simp
    · simp
  fun_induction readWords arguments with
  | case1 => simp
  | case2 rest => simp
  | case3 argument rest _ ih =>
    intro failed
    cases first : readWord argument with
    | error stop =>
      rw [first] at failed
      cases failed
      exact word argument first
    | ok read =>
      rw [first] at failed
      cases later : readWords rest with
      | error stop =>
        rw [later] at failed
        cases failed
        exact ih later
      | ok others =>
        rw [later] at failed
        cases failed

theorem readRequest_of_stop {stop : Stop} (read : readWords arguments = .ok words)
    (stopped : ({} : Draft).take environment words = .error stop) :
    readRequest environment arguments = .error stop := by
  rw [readRequest, read]
  simp only [bind, Except.bind, stopped]

/-- A request is made of what took effect, unless the file is missing or arguments are left over. -/
theorem readRequest_of_taken {draft : Draft} {extra : List String} (read : readWords arguments = .ok words)
    (taken : ({} : Draft).take environment words = .ok (draft, extra)) :
    (∃ request, readRequest environment arguments = .ok request ∧ request.isDebug = draft.isDebug) ∨
      ∃ message, readRequest environment arguments = .error (.misuse message) := by
  rw [readRequest, read]
  simp only [bind, Except.bind, taken]
  split
  · exact .inr ⟨_, rfl⟩
  · cases extra.isEmpty with
    | false => exact .inr ⟨_, rfl⟩
    | true => exact .inl ⟨_, rfl, rfl⟩

/-- Arguments fail just if their words do. -/
theorem readRequest_eq_failed_iff :
    readRequest environment arguments = .error (.failed failure) ↔
      ∃ words problem, readWords arguments = .ok words ∧ FailsAt environment words problem ∧
        problem.failure = failure := by
  constructor
  · intro failed
    cases read : readWords arguments with
    | error stop =>
      rw [readRequest, read] at failed
      cases failed
      exact absurd read readWords_ne_failed
    | ok words =>
      cases taken : ({} : Draft).take environment words with
      | error stop =>
        cases failed.symm.trans (readRequest_of_stop read taken)
        obtain ⟨problem, fails, same⟩ := take_eq_failed_iff.mp taken
        exact ⟨words, problem, rfl, fails, same⟩
      | ok result =>
        rcases readRequest_of_taken read taken with ⟨request, asked, -⟩ | ⟨message, misused⟩
        · cases failed.symm.trans asked
        · cases failed.symm.trans misused
  · rintro ⟨words, problem, read, fails, same⟩
    exact readRequest_of_stop read (take_eq_failed_iff.mpr ⟨problem, fails, same⟩)

/-- Without the option for it no request debugs. -/
theorem isDebug_of_readRequest (plain : ¬ AsksDebug arguments)
    (asked : readRequest environment arguments = .ok request) : request.isDebug = false := by
  cases read : readWords arguments with
  | error stop =>
    rw [readRequest, read] at asked
    cases asked
  | ok words =>
    have effect := taken_take environment {} words
    cases taken : ({} : Draft).take environment words with
    | error stop => cases asked.symm.trans (readRequest_of_stop read taken)
    | ok result =>
      rw [taken] at effect
      cases effect with
      | effect _ still =>
        rcases readRequest_of_taken read taken with ⟨given, same, debug⟩ | ⟨message, misused⟩
        · cases asked.symm.trans same
          exact debug.trans (still fun asks => plain ⟨words, read, asks⟩)
        · cases asked.symm.trans misused

end

/-! ## Runs -/

section

variable {console : Console} (lawful : console.IsLawful) (parser : Parser)

include lawful

theorem shows_interruptionLine : console.Shows interruptionLine := by
  rw [interruptionLine, ← String.append_empty (s := styled "yellow" _), lawful.behind_words (by decide),
    lawful.behind_title (by decide) (by decide)]
  exact lawful.shows_blank

/-- The work ends with an exit code, whatever comes of it. -/
theorem perform_exits {settings : Settings} {request : Request} {out : Path} (files : FileSystem)
    (interrupted : Bool) (plainRun : request.isDebug = false) :
    (perform parser console settings files interrupted request out).ending ∈ [.exit 0, .exit 1, .exit 130] := by
  by_cases shown : ∀ line ∈ openingLines request settings out, console.Shows line
  · cases interrupted with
    | true =>
      have last : ∀ line ∈ [interruptionLine], console.Shows line := by simpa using shows_interruptionLine lawful
      rw [perform, Run.showing_shown _ _ _ shown, if_pos rfl, Run.say, Run.showing_shown _ _ _ last]
      simp
    | false =>
      have follows := perform_of_shown lawful parser files plainRun shown
      cases came : (drawFile parser settings request.dedupScope files request.file out).outcome with
      | ok graph => simp [follows.succeeds.mpr ⟨graph, came⟩]
      | error failure => simp [follows.fails.mpr ⟨failure, came⟩]
  · obtain ⟨failure, went⟩ := Run.showing_spoilt _ _ _ shown
    rw [perform, went, plainRun, (Run.fail_eq lawful _ failure).1]
    simp

end

/-- The failures that a run does not turn into an exit code: a path among the arguments, the path that the diagram
has by default, and the text of the help. -/
inductive Leaks (environment : Environment) (arguments : List String) : Failure → Prop where
  | argument {words : List Word} {problem : PathProblem} (read : readWords arguments = .ok words)
      (fails : FailsAt environment words problem) : Leaks environment arguments problem.failure
  | output {request : Request} {problem : PathProblem} (asked : readRequest environment arguments = .ok request)
      (byDefault : request.out = none) (unreachable : environment.Unreachable environment.settings.outputPath problem) :
      Leaks environment arguments problem.failure
  | help {problem : Template.Problem} (asked : readRequest environment arguments = .error .help)
      (spoilt : Template.fill (outValues environment.settings) (outPurpose environment.settings) = .error problem) :
      Leaks environment arguments (.spoiltTemplate problem)

section

variable {console : Console} {environment : Environment} {arguments : List String} {failure : Failure}

/-- A run that does not debug leaks, or it is refused, or it ends with an exit code. -/
theorem run_cases (lawful : console.IsLawful) (parser : Parser) (environment : Environment)
    (plain : ¬ AsksDebug arguments) (files : FileSystem) (interrupted : Bool) :
    (∃ failure, Leaks environment arguments failure) ∨
      (run parser console environment files interrupted arguments).ending ∈
        [.refused 0, .refused 2, .exit 0, .exit 1, .exit 130] := by
  cases asked : readRequest environment arguments with
  | error stop =>
    cases stop with
    | help =>
      cases filled : Template.fill (outValues environment.settings) (outPurpose environment.settings) with
      | error problem => exact .inl ⟨_, .help asked filled⟩
      | ok text =>
        obtain ⟨helped, whole⟩ : ∃ helped, help environment.settings = .ok helped :=
          ⟨_, by simp only [help, filled, Except.map]; rfl⟩
        obtain ⟨shown, accepted⟩ := lawful.accepts helped
        exact .inr (by simp [run, asked, showHelp, whole, accepted])
    | misuse message => exact .inr (by simp [run, asked])
    | failed failure =>
      obtain ⟨words, problem, read, fails, -⟩ := readRequest_eq_failed_iff.mp asked
      exact .inl ⟨_, .argument read fails⟩
  | ok request =>
    cases reached : outPath environment request with
    | error problem =>
      unfold outPath at reached
      split at reached
      · cases reached
      · rename_i byDefault
        exact .inl ⟨_, .output asked byDefault (resolve_eq_error_iff.mp reached)⟩
    | ok out =>
      have plainRun := isDebug_of_readRequest plain asked
      have exits : (perform parser console environment.settings files interrupted request out).ending ∈
          [.exit 0, .exit 1, .exit 130] := perform_exits lawful parser files interrupted plainRun
      refine .inr ?_
      simp only [run, asked, reached]
      exact List.mem_cons_of_mem _ (List.mem_cons_of_mem _ exits)

end

/-- A link to itself. -/
example : (run parse Markup.console { sampleUser with follow := .error } sampleDisk false ["--file", "l.js"]).ending =
    .raised (.linkLoop "/W/l.js") := by
  rfl

end TestFlow.CommandLine

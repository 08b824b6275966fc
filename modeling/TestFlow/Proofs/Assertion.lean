import TestFlow.Proofs.Chaining
import TestFlow.Proofs.Unplaced

/-! # What an assertion is about

An assertion is about the first literal among two arguments, that of the predicate before its own. Without
one it is about the name that its own argument starts from, if that is a chain of members, and else about
nothing. All else in the tree may be as it likes: the two arguments and the chain from the assertion up to
its predicate say it all.
-/

namespace TestFlow

open Syntax

/-! ## Texts of arguments -/

/-- An argument shows a text: that of a string or of a plain template without a leading web scheme, a regular
expression as it is written, or in quotes the string that a method call begins with. -/
inductive ShowsLiteral (argument : Syntax.Node) : String → Prop where
  | string {value shown : String} (isString : argument.stringValue? = some value)
      (bare : Text.WithoutScheme value shown) : ShowsLiteral argument shown
  | regex (isRegex : argument.kind = .regex) : ShowsLiteral argument argument.regexText
  | query {callee first : Syntax.Node} {value shown : String} (isCall : argument.kind = .callExpression)
      (calls : argument.callee? = some callee) (isMethod : callee.kind = .memberExpression)
      (given : argument.callArguments.head? = some first) (isString : first.stringValue? = some value)
      (bare : Text.WithoutScheme value shown) : ShowsLiteral argument ("'" ++ shown ++ "'")

/-- A chain of members starts from a name, which is that of the identifier or `this` at its end; one that
starts from anything else starts from a general word. -/
inductive StartsFrom : Syntax.Node → String → Prop where
  | member {chain object : Syntax.Node} {name : String} (isMember : chain.kind = .memberExpression)
      (isObject : chain.child? .object = some object) (rest : StartsFrom object name) : StartsFrom chain name
  | named {start : Syntax.Node} (isName : start.kind = .identifier ∨ start.kind = .this) :
      StartsFrom start start.text
  | other {start : Syntax.Node} (noName : start.kind ≠ .identifier ∧ start.kind ≠ .this)
      (ends : start.kind = .memberExpression → start.child? .object = none) : StartsFrom start "subject"

section

variable {argument : Syntax.Node} {text : String}

theorem detail?_of_member (isMember : argument.kind = .memberExpression) :
    detail? argument = some (rootName argument) := by
  simp only [detail?, isMember]

theorem ShowsLiteral.no_member (literal : ShowsLiteral argument text) :
    argument.kind ≠ .memberExpression := by
  intro isMember
  cases literal with
  | string isString =>
    rcases Node.isStringLike_of_stringValue? isString with kind | kind <;> simp [isMember] at kind
  | regex isRegex => simp [isMember] at isRegex
  | query isCall => simp [isMember] at isCall

/-- The detail of an argument that is no chain of members. -/
def literalDetail? (argument : Syntax.Node) : Option String :=
  if argument.kind = .memberExpression then none else detail? argument

theorem literalDetail?_eq_some_iff : literalDetail? argument = some text ↔ ShowsLiteral argument text := by
  constructor
  · intro found
    unfold literalDetail? at found
    split at found
    · cases found
    · rename_i noMember
      unfold detail? at found
      split at found
      · rename_i isCall
        obtain ⟨value, asked, rfl⟩ := Option.map_eq_some_iff.mp found
        obtain ⟨callee, first, calls, isMethod, given, isString⟩ := queryText?_eq_some_iff.mp asked
        exact .query isCall calls isMethod given isString (Text.withoutScheme_stripScheme value)
      · exact absurd ‹_› noMember
      · obtain ⟨value, isString, rfl⟩ := Option.map_eq_some_iff.mp found
        exact .string isString (Text.withoutScheme_stripScheme value)
      · obtain ⟨value, isString, rfl⟩ := Option.map_eq_some_iff.mp found
        exact .string isString (Text.withoutScheme_stripScheme value)
      · obtain rfl := Option.some.inj found
        exact .regex ‹_›
      · cases found
  · intro literal
    rw [literalDetail?, if_neg literal.no_member]
    cases literal with
    | string isString bare =>
      obtain rfl := Text.withoutScheme_iff.mp bare
      rcases Node.isStringLike_of_stringValue? isString with kind | kind <;>
        simp [detail?, kind, isString]
    | regex isRegex => simp only [detail?, isRegex]
    | query isCall calls isMethod given isString bare =>
      obtain rfl := Text.withoutScheme_iff.mp bare
      have asked := queryText?_eq_some_iff.mpr ⟨_, _, calls, isMethod, given, isString⟩
      simp [detail?, isCall, asked]

theorem literalDetail?_unplaced (argument : Syntax.Node) :
    literalDetail? argument.unplaced = literalDetail? argument := by
  simp [literalDetail?]

theorem startsFrom_rootName (chain : Syntax.Node) : StartsFrom chain (rootName chain) := by
  induction chain using rootName.induct with
  | case1 chain isMember object found ih =>
    rw [rootName_of_member isMember, found]
    exact .member isMember found ih
  | case2 chain isMember noObject =>
    rw [rootName_of_member isMember, noObject]
    exact .other (by simp [isMember]) fun _ => noObject
  | case3 chain noMember isName =>
    rw [rootName_of_no_member noMember, if_pos isName]
    exact .named (by simpa using isName)
  | case4 chain noMember noName =>
    rw [rootName_of_no_member noMember, if_neg noName]
    exact .other (by simpa using noName) fun isMember => absurd isMember noMember

theorem StartsFrom.eq_rootName {chain : Syntax.Node} (starts : StartsFrom chain text) :
    text = rootName chain := by
  induction starts with
  | member isMember isObject _ ih =>
    rw [rootName_of_member isMember, isObject, Option.map_some, Option.getD_some, ih]
  | @named start isName =>
    have noMember : start.kind ≠ .memberExpression := by rcases isName with kind | kind <;> simp [kind]
    rw [rootName_of_no_member noMember, if_pos (by simpa using isName)]
  | @other start noName ends =>
    by_cases isMember : start.kind = .memberExpression
    · rw [rootName_of_member isMember, ends isMember, Option.map_none, Option.getD_none]
    · rw [rootName_of_no_member isMember, if_neg (by simpa using noName)]

end

/-! ## What is asserted about what -/

/-- There is no argument, or none that shows a text. -/
def ShowsNone (given : Option Syntax.Node) : Prop :=
  ∀ argument, given = some argument → ∀ text, ¬ ShowsLiteral argument text

/-- What an assertion is about: what the argument of its predicate shows, or else what its own argument
shows, or else the name that its own argument starts from if it is a chain of members, or else nothing. -/
inductive Resolves (expected subject : Option Syntax.Node) : String → Prop where
  | expected {argument : Syntax.Node} {text : String} (given : expected = some argument)
      (literal : ShowsLiteral argument text) : Resolves expected subject text
  | subject {argument : Syntax.Node} {text : String}
      (computed : ShowsNone expected) (given : subject = some argument)
      (literal : ShowsLiteral argument text) : Resolves expected subject text
  | root {argument : Syntax.Node} {name : String}
      (computed : ShowsNone expected) (given : subject = some argument)
      (isMember : argument.kind = .memberExpression)
      (starts : StartsFrom argument name) : Resolves expected subject name
  | nothing (computed : ShowsNone expected) (silent : ShowsNone subject)
      (noMember : ∀ argument, subject = some argument → argument.kind ≠ .memberExpression) :
      Resolves expected subject ""

section

variable {expected subject : Option Syntax.Node} {argument : Syntax.Node} {target text : String}

/-- Neither a name nor the lack of one hides a literal. -/
theorem Resolves.showsLiteral (resolves : Resolves expected subject target)
    (given : expected = some argument ∨ subject = some argument) (literal : ShowsLiteral argument text) :
    ∃ shown, (expected = some shown ∨ subject = some shown) ∧ ShowsLiteral shown target := by
  cases resolves with
  | expected found shows => exact ⟨_, .inl found, shows⟩
  | subject _ found shows => exact ⟨_, .inr found, shows⟩
  | root computed found isMember _ =>
    rcases given with among | among
    · exact absurd literal (computed _ among _)
    · obtain rfl := Option.some.inj (found.symm.trans among)
      exact absurd isMember literal.no_member
  | nothing computed silent =>
    rcases given with among | among
    · exact absurd literal (computed _ among _)
    · exact absurd literal (silent _ among _)

/-- A chain of members that is given to the predicate might as well not be given. -/
theorem Resolves.without_member (resolves : Resolves (some argument) subject target)
    (isMember : argument.kind = .memberExpression) : Resolves none subject target := by
  have absent : ShowsNone none := fun _ given => nomatch given
  cases resolves with
  | expected found literal =>
    obtain rfl := Option.some.inj found
    exact absurd isMember literal.no_member
  | subject _ found literal => exact .subject absent found literal
  | root _ found isChain starts => exact .root absent found isChain starts
  | nothing _ silent noMember => exact .nothing absent silent noMember

theorem showsNone_iff : ShowsNone expected ↔ expected.bind literalDetail? = none := by
  have silent (argument : Syntax.Node) :
      (∀ text, ¬ ShowsLiteral argument text) ↔ literalDetail? argument = none := by
    simp only [Option.eq_none_iff_forall_ne_some, ne_eq, literalDetail?_eq_some_iff]
  simp only [ShowsNone, silent, Option.bind_eq_none_iff]

/-- What two arguments resolve to is their details, the one behind the other. -/
theorem resolves_iff : Resolves expected subject target ↔
    target = ((expected.bind literalDetail?).or (subject.bind detail?)).getD "" := by
  constructor
  · intro resolves
    cases resolves with
    | expected given literal => simp [given, literalDetail?_eq_some_iff.mpr literal]
    | subject computed given literal =>
      have shown := literalDetail?_eq_some_iff.mpr literal
      rw [literalDetail?, if_neg literal.no_member] at shown
      simp [showsNone_iff.mp computed, given, shown]
    | root computed given isMember starts =>
      simp [showsNone_iff.mp computed, given, detail?_of_member isMember,
        starts.eq_rootName]
    | nothing computed silent noMember =>
      rw [showsNone_iff.mp computed, Option.none_or]
      cases subject with
      | none => rfl
      | some argument =>
        have unshown := showsNone_iff.mp silent
        rw [Option.bind_some, literalDetail?, if_neg (noMember argument rfl)] at unshown
        rw [Option.bind_some, unshown, Option.getD_none]
  · rintro rfl
    cases shown : expected.bind literalDetail? with
    | some text =>
      obtain ⟨argument, given, literal⟩ := Option.bind_eq_some_iff.mp shown
      exact .expected given (literalDetail?_eq_some_iff.mp literal)
    | none =>
      have computed := showsNone_iff.mpr shown
      rw [Option.none_or]
      cases subject with
      | none => exact .nothing computed (fun _ given => nomatch given) fun _ given => nomatch given
      | some argument =>
        rw [Option.bind_some]
        by_cases isMember : argument.kind = .memberExpression
        · rw [detail?_of_member isMember]
          exact .root computed rfl isMember (startsFrom_rootName argument)
        · have literal : detail? argument = literalDetail? argument := (if_neg isMember).symm
          rw [literal]
          cases found : literalDetail? argument with
          | some text => exact .subject computed rfl (literalDetail?_eq_some_iff.mp found)
          | none =>
            refine .nothing computed (showsNone_iff.mpr found) fun other given => ?_
            obtain rfl := Option.some.inj given
            exact isMember

end

/-! ## Assertions -/

/-- A call of the assertion function by its name. -/
def Asserts (settings : Settings) (call : Syntax.Node) : Prop :=
  ∃ callee, call.callee? = some callee ∧ callee.kind = .identifier ∧
    callee.text = settings.assertionFunction

/-- What there is to a link of a chain. -/
def linkShape (link : Focus) : Kind × Option String :=
  (link.node.kind, link.node.memberProperty?)

section

variable {settings : Settings} {root : Syntax.Node} {call callee predicate last other : Focus}
  {links others : List Focus} {name given : String}

theorem classify_of_asserts (distinct : settings.testFunction ≠ settings.assertionFunction)
    (asserts : Asserts settings call.node) : classify settings call = readAssertion call := by
  obtain ⟨callee, calls, isName, text⟩ := asserts
  simp [classify, calls, isName, text, distinct.symm]

theorem predicateDetail?_eq (predicate : Syntax.Node) :
    predicateDetail? predicate = predicate.callArguments.head?.bind literalDetail? := by
  rw [predicateDetail?]
  cases predicate.callArguments.head? <;> rfl

theorem readAssertion_of_chained {found : ChainedPredicate} (scanned : chainedPredicate? call = some found) :
    readAssertion call = .action
      { kind := .step .assertion
        target := ((found.call.node.callArguments.head?.bind literalDetail?).or
          (call.node.callArguments.head?.bind detail?)).getD ""
        value := some found.label } := by
  simp only [readAssertion, scanned, predicateDetail?_eq]

theorem ChainPath.getLast?_links (path : ChainPath call links callee) (nonempty : links ≠ []) :
    links.getLast? = some callee := by
  induction path with
  | nil => exact absurd rfl nonempty
  | @cons inner outer top links _ rest ih =>
    cases links with
    | nil =>
      cases rest
      rfl
    | cons next links => rw [List.getLast?_cons_cons, ih (List.cons_ne_nil _ _)]

/-- Chains of one shape are negated equally often and call their predicates by one name. -/
theorem eq_of_linkShape {otherPredicate : Focus} (shape : links.map linkShape = others.map linkShape)
    (nonempty : links ≠ []) (path : ChainPath call links callee) (calls : Calls callee predicate name)
    (otherPath : ChainPath other others last) (otherCalls : Calls last otherPredicate given) :
    negations others = negations links ∧ given = name := by
  constructor
  · have counted (links : List Focus) : negations links = (links.map linkShape).countP
        fun shape => shape.1 = .memberExpression && shape.2 = some "not" := by
      rw [negations, List.countP_map]
      rfl
    rw [counted, counted, shape]
  · have otherNonempty : others ≠ [] := by
      rintro rfl
      exact nonempty (List.map_eq_nil_iff.mp shape)
    have ends := congrArg List.getLast? shape
    rw [List.getLast?_map, List.getLast?_map, path.getLast?_links nonempty,
      otherPath.getLast?_links otherNonempty] at ends
    have property := congrArg Prod.snd (Option.some.inj ends)
    exact Option.some.inj (otherCalls.named.symm.trans (property.symm.trans calls.named))

end

/-- A call of the assertion function is an assertion just if a predicate is chained onto it. Its value is
then the name of the predicate, with a word in front if it is negated, and its target is what the first
argument of the predicate shows, or else what its own first argument shows, or else where that starts from if
it is a chain of members, or else empty: no name hides a literal, and a chain of members given to the
predicate counts for nothing. Two such calls, in whatever trees, are the same action if their first arguments,
the links of their chains and the first arguments of their predicates are the same. -/
theorem assertion_resolves_to_literal {settings : Settings} {root : Syntax.Node} {call : Focus}
    (distinct : settings.testFunction ≠ settings.assertionFunction)
    (inTree : call ∈ (Focus.root root).subtree) (isCall : call.node.isCall = true)
    (asserts : Asserts settings call.node) :
    ((∃ action, classify settings call = .action action ∧ action.kind = .step .assertion) ↔
      ∃ found, chainedPredicate? call = some found) ∧
    (∀ found expected subject, chainedPredicate? call = some found →
      found.call.node.callArguments.head? = expected → call.node.callArguments.head? = subject →
      ∃ target,
        classify settings call =
          .action { kind := .step .assertion, target
                    value := some (if found.isNegated then "not " ++ found.name else found.name) } ∧
        Resolves expected subject target ∧
        (∀ argument text, (expected = some argument ∨ subject = some argument) →
          ShowsLiteral argument text →
            ∃ shown, (expected = some shown ∨ subject = some shown) ∧ ShowsLiteral shown target) ∧
        ∀ argument, expected = some argument → argument.kind = .memberExpression →
          Resolves none subject target) ∧
    ∀ otherRoot other links callee predicate name others last otherPredicate given,
      other ∈ (Focus.root otherRoot).subtree → Asserts settings other.node →
      ChainPath call links callee → Calls callee predicate name →
      ChainPath other others last → Calls last otherPredicate given →
      links.map linkShape = others.map linkShape →
      SameSource call.node.callArguments.head? other.node.callArguments.head? →
      SameSource predicate.node.callArguments.head? otherPredicate.node.callArguments.head? →
        classify settings other = classify settings call := by
  refine ⟨?_, ?_, ?_⟩
  · rw [classify_of_asserts distinct asserts]
    constructor
    · rintro ⟨action, read, -⟩
      cases scanned : chainedPredicate? call with
      | none => simp [readAssertion, scanned] at read
      | some found => exact ⟨found, rfl⟩
    · rintro ⟨found, scanned⟩
      exact ⟨_, readAssertion_of_chained scanned, rfl⟩
  · rintro found expected subject scanned rfl rfl
    have read := (classify_of_asserts distinct asserts).trans (readAssertion_of_chained scanned)
    rw [found.label_eq] at read
    have resolves : Resolves found.call.node.callArguments.head? call.node.callArguments.head? _ :=
      resolves_iff.mpr rfl
    refine ⟨_, read, resolves, fun argument text => resolves.showsLiteral, fun argument given isMember => ?_⟩
    exact Resolves.without_member (given ▸ resolves) isMember
  · intro otherRoot other links callee predicate name others last otherPredicate given otherInTree
      otherAsserts path calls otherPath otherCalls shape subject expected
    have nonempty := path.ne_nil isCall calls.isMember
    obtain ⟨negated, rfl⟩ := eq_of_linkShape shape nonempty path calls otherPath otherCalls
    rw [classify_of_asserts distinct asserts, classify_of_asserts distinct otherAsserts,
      readAssertion_of_chained (chainedPredicate?_of_path inTree path calls),
      readAssertion_of_chained (chainedPredicate?_of_path otherInTree otherPath otherCalls),
      subject.bind_eq detail?_unplaced, expected.bind_eq literalDetail?_unplaced, negated]
    rfl

/-- The title of a page, asserted to be the text `Home`. -/
def sampleAssertion : Syntax.Node :=
  let inner := .plain .callExpression ""
    [(Node.plain .identifier "expect" []).withField .function,
      (Node.plain .arguments "" [sampleMember (.plain .identifier "page" []) "title"]).withField .arguments]
  let expected := .plain .string "" [.plain (.other "string_fragment") "Home" []]
  .plain .callExpression ""
    [(sampleMember inner "toBe").withField .function,
      (Node.plain .arguments "" [expected]).withField .arguments]

/-- The name of the page stays behind the literal, and it makes no difference what else is in the file. -/
theorem assertion_of_sample : ∃ call other : Focus,
    call ∈ (Focus.root sampleAssertion).subtree ∧
      other ∈ (Focus.root (.plain (.other "program") "" [sampleAssertion])).subtree ∧
      classify {} call = .action { kind := .step .assertion, target := "Home", value := some "toBe" } ∧
      classify {} other = classify {} call := by
  have parts (outer : Focus) (same : outer.node = sampleAssertion) :
      ∃ callee call : Focus, call ∈ outer.subtree ∧ call.node.isCall = true ∧ Asserts {} call.node ∧
        ChainPath call [callee] callee ∧ Calls callee outer "toBe" ∧
        linkShape callee = (.memberExpression, some "toBe") ∧
        call.node.callArguments = [sampleMember (.plain .identifier "page" []) "title"] := by
    obtain ⟨node, path⟩ := outer
    obtain rfl : node = sampleAssertion := same
    obtain ⟨callee, call, called, object, isCallee, named, isCall, asserts, arguments⟩ :
        ∃ callee call : Focus, Focus.child? ⟨sampleAssertion, path⟩ .function = some callee ∧
          callee.child? .object = some call ∧ callee.node.kind = .memberExpression ∧
          callee.node.memberProperty? = some "toBe" ∧ call.node.isCall = true ∧
          Asserts {} call.node ∧
          call.node.callArguments = [sampleMember (.plain .identifier "page" []) "title"] :=
      ⟨_, _, rfl, rfl, rfl, rfl, rfl, ⟨_, rfl, rfl, rfl⟩, rfl⟩
    have down : Descends callee call := .inl ⟨isCallee, object⟩
    refine ⟨callee, call, ?_, isCall, asserts, .cons down.isLink (.nil callee),
      ⟨isCallee, named, by decide, rfl, called⟩, Prod.ext isCallee named, arguments⟩
    exact Focus.mem_subtree_of_child? called
      (Focus.mem_subtree_of_child down.mem_children call.self_mem_subtree)
  let program : Syntax.Node := .plain (.other "program") "" [sampleAssertion]
  obtain ⟨callee, call, inTree, isCall, asserts, path, calls, shape, subject⟩ :=
    parts (.root sampleAssertion) rfl
  obtain ⟨otherCallee, other, inside, -, otherAsserts, otherPath, otherCalls, otherShape, otherSubject⟩ :=
    parts ⟨sampleAssertion, [⟨program, 0⟩]⟩ rfl
  have otherInTree : other ∈ (Focus.root program).subtree :=
    Focus.mem_subtree_of_child List.mem_cons_self inside
  obtain ⟨-, resolved, further⟩ := assertion_resolves_to_literal (by decide) inTree isCall asserts
  have scanned := chainedPredicate?_of_path inTree path calls
  obtain ⟨target, read, resolves, -⟩ := resolved _ (some _) _ scanned rfl rfl
  have shown : literalDetail? (.plain .string "" [.plain (.other "string_fragment") "Home" []]) =
      some "Home" := by decide +kernel
  have home : target = "Home" := by
    rw [resolves_iff.mp resolves, Option.bind_some, shown, Option.some_or, Option.getD_some]
  have counted : negations [callee] = 0 := by
    obtain ⟨-, named⟩ := Prod.ext_iff.mp shape
    have name : callee.node.memberProperty? = some "toBe" := named
    simp [negations, isNegation, name]
  refine ⟨call, other, inTree, otherInTree, ?_, ?_⟩
  · simp [read, home, counted]
  · refine further program other _ _ _ _ _ _ _ _ otherInTree otherAsserts path calls otherPath otherCalls
      ?_ ?_ rfl
    · rw [List.map_singleton, List.map_singleton, shape, otherShape]
    · rw [subject, otherSubject]
      rfl

end TestFlow

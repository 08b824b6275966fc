import TestFlow.Proofs.Chaining
import TestFlow.Proofs.Syntax.Exchange

/-! # What page steps show

A page step shows the literals among the arguments that its method reads, each from an argument of its own.
What is missing or computed is shown as nothing, so that it makes no difference what is computed.
-/

namespace TestFlow

open Syntax

/-! ## The arguments that are read -/

/-- Whether a node is a string, or a template in which nothing is substituted. -/
def isLiteral (node : Syntax.Node) : Bool :=
  node.isStringLike && node.namedChildren.all (·.kind ≠ .templateSubstitution)

/-- The value of an argument, if there is one and it is a literal. -/
def literalAt? (source : Option Focus) : Option String :=
  source.bind (·.node.stringValue?)

/-- Whether there is an argument and it is a literal. -/
def isGiven (source : Option Focus) : Bool :=
  source.any (isLiteral ·.node)

/-- The receiver of a method call, if it is a call itself. -/
def receiver? (call : Focus) : Option Focus :=
  ((call.child? .function).bind (·.child? .object)).filter (·.node.isCall)

/-- The first argument of a call, if it is a method call. -/
def methodArgument? (call : Focus) : Option Focus :=
  (call.child? .function).bind fun callee =>
    if callee.node.kind = .memberExpression then call.arguments.head? else none

/-- The first argument of the receiver of a method call, if the receiver is a method call itself. -/
def queryArgument? (call : Focus) : Option Focus :=
  (receiver? call).bind methodArgument?

/-- The arguments that a page method reads, one for each text that its step shows. -/
def PageMethod.sources (method : PageMethod) (call : Focus) : List (Option Focus) :=
  let first := call.arguments[0]?
  let second := call.arguments[1]?
  let query := queryArgument? call
  match method with
  | .goto => [first]
  | .click => if isGiven first then [first] else [query]
  | .fill => if isGiven query && !isGiven second then [query, first] else [first, second]

/-- The kind of step that a call of a page method is. -/
def PageMethod.stepKind : PageMethod → StepKind
  | .goto => .navigate
  | .click => .click
  | .fill => .fill

/-- What a page method shows of a literal: of an address what is left without its scheme, and of anything
else all of it. -/
def PageMethod.Displays : PageMethod → String → String → Prop
  | .goto => Text.WithoutScheme
  | .click | .fill => Eq

/-- The text that an argument is shown as: what the method displays of its value if it is a literal, and else
nothing. -/
inductive Shows (method : PageMethod) : Option Focus → String → Prop where
  | literal {argument : Focus} {value shown : String} (given : isGiven (some argument) = true)
      (isValue : argument.node.stringValue? = some value) (displayed : method.Displays value shown) :
      Shows method (some argument) shown
  | nothing {source : Option Focus} (computed : isGiven source = false) : Shows method source ""

/-- The text that a page method puts into its step for a literal. -/
def PageMethod.display : PageMethod → String → String
  | .goto => Text.stripScheme
  | .click | .fill => id

section

variable {settings : Settings} {call callee receiver argument : Focus} {action : Action} {kind : StepKind}
  {method : PageMethod}

theorem isSome_stringValue? (node : Syntax.Node) : node.stringValue?.isSome = isLiteral node := by
  simp only [Node.stringValue?, isLiteral, List.not_any_eq_all_not, decide_not]
  split <;> simp_all

theorem isSome_literalAt? (source : Option Focus) : (literalAt? source).isSome = isGiven source := by
  cases source with
  | none => rfl
  | some argument => exact isSome_stringValue? argument.node

theorem isNone_literalAt? (source : Option Focus) : (literalAt? source).isNone = !isGiven source := by
  rw [← isSome_literalAt?, Option.not_isSome]

theorem displays_display (method : PageMethod) (value : String) : method.Displays value (method.display value) := by
  cases method with
  | goto => exact Text.withoutScheme_stripScheme value
  | click => exact rfl
  | fill => exact rfl

theorem shows_literalAt? (method : PageMethod) (source : Option Focus) :
    Shows method source (method.display ((literalAt? source).getD "")) := by
  have given := isSome_literalAt? source
  cases found : literalAt? source with
  | none =>
    have empty : method.display "" = "" := by cases method <;> decide +kernel
    rw [Option.getD_none, empty]
    exact .nothing (by rw [← given, found, Option.isSome_none])
  | some value =>
    obtain ⟨argument, rfl, isValue⟩ := Option.bind_eq_some_iff.mp found
    exact .literal (by rw [← given, found, Option.isSome_some]) isValue (displays_display method value)

/-! ## Literals of a call -/

theorem literalAt?_arguments (call : Focus) (index : Nat) :
    literalAt? call.arguments[index]? = call.node.callArguments[index]?.bind Node.stringValue? := by
  rw [← call.arguments_map_node, List.getElem?_map, Option.bind_map]
  rfl

theorem queryText?_eq (call : Focus) : queryText? call.node = literalAt? (methodArgument? call) := by
  rw [queryText?, Node.callee?, ← call.child?_map_node, methodArgument?]
  cases call.child? .function with
  | none => rfl
  | some callee =>
    by_cases isMethod : callee.node.kind = .memberExpression
    · simp only [Option.map_some, Option.bind_some, isMethod, if_true, ← call.arguments_map_node,
        List.head?_map, Option.bind_map]
      rfl
    · simp [isMethod, literalAt?]

theorem receiverSelector?_eq (calls : call.child? .function = some callee) :
    receiverSelector? callee.node = literalAt? (queryArgument? call) := by
  rw [receiverSelector?, ← callee.child?_map_node, queryArgument?, receiver?, calls, Option.bind_some]
  cases callee.child? .object with
  | none => rfl
  | some receiver =>
    by_cases isCall : receiver.node.kind = .callExpression
    · simp [Option.filter, Node.isCall, isCall, queryText?_eq]
    · simp [Option.filter, Node.isCall, isCall, literalAt?]

/-! ## Each from an argument of its own -/

theorem arguments_nodup (call : Focus) : call.arguments.Nodup := by
  unfold Focus.arguments
  split
  · exact List.nodup_nil
  · split
    · exact List.Nodup.filter _ (Focus.children_nodup _)
    · exact List.nodup_nil

/-- What is in the callee of a call is no argument of the call. -/
theorem not_mem_arguments (calls : call.child? .function = some callee)
    (inside : argument ∈ callee.subtree) : argument ∉ call.arguments := by
  intro among
  obtain ⟨list, found, -, member, -⟩ := Focus.mem_arguments_iff.mp among
  obtain ⟨index, first, entered⟩ := Focus.child?_eq_some_iff.mp calls
  obtain ⟨place, second, met⟩ := Focus.child?_eq_some_iff.mp found
  obtain rfl := Focus.index_eq_of_isWithin entered met (Focus.isWithin_of_mem_subtree inside)
    (Focus.isWithin_of_mem_children member)
  cases eq_of_childIndex? first second

theorem receiver?_eq_some_iff : receiver? call = some receiver ↔ ∃ callee,
    call.child? .function = some callee ∧ callee.child? .object = some receiver ∧
      receiver.node.isCall = true := by
  simp only [receiver?, Option.filter_eq_some_iff, Option.bind_eq_some_iff, ← exists_and_right, and_assoc]

theorem queryArgument?_not_mem (found : queryArgument? call = some argument) :
    argument ∉ call.arguments := by
  obtain ⟨receiver, isReceiver, first⟩ := Option.bind_eq_some_iff.mp found
  obtain ⟨callee, calls, object, -⟩ := receiver?_eq_some_iff.mp isReceiver
  obtain ⟨inner, -, given⟩ := Option.bind_eq_some_iff.mp first
  split at given
  · have inReceiver := Focus.mem_subtree_of_mem_arguments (List.mem_of_mem_head? given)
    exact not_mem_arguments calls (Focus.mem_subtree_of_child? object inReceiver)
  · cases given

/-- Two sources are not the same argument. -/
def Distinct (first second : Option Focus) : Prop :=
  ∀ argument, first = some argument → second ≠ some argument

theorem sources_distinct (method : PageMethod) (call : Focus) : (method.sources call).Pairwise Distinct := by
  have ordered : Distinct call.arguments[0]? call.arguments[1]? := by
    intro argument first second
    obtain ⟨bound, -⟩ := List.getElem?_eq_some_iff.mp second
    have differ := List.nodup_iff_getElem?_ne_getElem?.mp (arguments_nodup call) 0 1 Nat.zero_lt_one bound
    exact differ (first.trans second.symm)
  have query : Distinct (queryArgument? call) call.arguments[0]? := fun argument found given =>
    queryArgument?_not_mem found (List.mem_of_getElem? given)
  cases method with
  | goto => exact List.pairwise_singleton _ _
  | click =>
    simp only [PageMethod.sources]
    split <;> exact List.pairwise_singleton _ _
  | fill =>
    simp only [PageMethod.sources]
    split
    · exact List.pairwise_pair.mpr query
    · exact List.pairwise_pair.mpr ordered

/-! ## Page steps -/

theorem stepKind_readPageAction (method : PageMethod) (callee call : Syntax.Node) :
    (readPageAction method callee call).kind = .step method.stepKind := by
  cases method <;> rfl

/-- Only calls of page methods are page steps. -/
theorem callsPage_of_classify (classified : classify settings call = .action action)
    (isStep : action.kind = .step kind) (onPage : kind ≠ .assertion) :
    ∃ method callee, CallsPage method callee call.node ∧
      action = readPageAction method callee call.node := by
  rcases classify_cases classified with ⟨-, declared⟩ | asserted | page
  · have starts := (kind_of_readTest declared).2
    rw [isStep] at starts
    cases starts
  · have asserts := kind_of_readAssertion asserted
    rw [isStep] at asserts
    cases asserts
    exact absurd rfl onPage
  · exact page

/-- The texts of a page action and its mark tell of the same arguments. -/
theorem readPageAction_eq (calls : call.child? .function = some callee) :
    (readPageAction method callee.node call.node).target ::
        (readPageAction method callee.node call.node).value.toList =
      (method.sources call).map (fun source => method.display ((literalAt? source).getD "")) ∧
    (readPageAction method callee.node call.node).isComputed =
      (method.sources call).any fun source => !isGiven source := by
  have first : firstValue? call.node = _ := (literalAt?_arguments call 0).symm
  have second : secondValue? call.node = _ := (literalAt?_arguments call 1).symm
  have query := receiverSelector?_eq calls
  cases method with
  | goto => simp [readPageAction, PageMethod.sources, PageMethod.display, first, isNone_literalAt?]
  | click =>
    have given := isSome_literalAt? call.arguments[0]?
    simp only [readPageAction, PageMethod.sources, PageMethod.display, first, query, ← given]
    cases found : literalAt? call.arguments[0]? with
    | none => simp [isNone_literalAt?]
    | some selector => simp [← given, found]
  | fill =>
    simp only [readPageAction, PageMethod.sources, PageMethod.display, fillValues, first, second, query,
      isSome_literalAt?, isNone_literalAt?]
    split <;> simp [isNone_literalAt?]

/-! ## Exchanging what is computed -/

theorem queryText?_of_sameCall {before after : Syntax.Node} (same : SameCall before after) :
    queryText? after = queryText? before := by
  have first := Node.argument_of_values same.values 0
  have moved := same.callee
  cases calls : before.callee? with
  | none =>
    rw [SameSource, calls, Option.map_none, Option.map_eq_none_iff] at moved
    simp only [queryText?, calls, moved]
  | some callee =>
    obtain ⟨other, callsToo, moved⟩ := same.exists_callee calls
    have kind : other.kind = callee.kind := by rw [← other.unplaced_kind, moved, callee.unplaced_kind]
    simp only [queryText?, calls, callsToo, kind, List.head?_eq_getElem?, first]

/-- The same literals, in the same places. -/
theorem callsPage_of_sameCall {callee before after : Syntax.Node} (page : CallsPage method callee before)
    (same : SameCall before after) : ∃ other, CallsPage method other after ∧
      readPageAction method other after = readPageAction method callee before := by
  obtain ⟨other, calls, moved⟩ := same.exists_callee page.calls
  refine ⟨other, ⟨calls, ?_, ?_⟩, ?_⟩
  · rw [← other.unplaced_kind, moved, callee.unplaced_kind, page.isMember]
  · rw [← other.unplaced_memberProperty?, moved, callee.unplaced_memberProperty?, page.named]
  · refine readPageAction_congr method ?_ (Node.argument_of_values same.values 0)
      (Node.argument_of_values same.values 1)
    rw [← receiverSelector?_unplaced, moved, receiverSelector?_unplaced]

/-- An argument of the receiver is exchanged for one of the same value. -/
theorem callsPage_of_exchanged_receiver {part after : Syntax.Node} {place : List Nat}
    (page : CallsPage method callee.node call.node) (calls : call.child? .function = some callee)
    (object : callee.child? .object = some receiver) (among : argument ∈ receiver.arguments)
    (isArgument : part.isArgument = true) (silent : part.stringValue? = argument.node.stringValue?)
    (stands : argument.position = place.reverse ++ call.position)
    (exchanged : Exchanged part place call.node after) : ∃ other, CallsPage method other after ∧
      readPageAction method other after = readPageAction method callee.node call.node := by
  have inReceiver := Focus.mem_subtree_of_mem_arguments among
  have inCallee := Focus.mem_subtree_of_child? object inReceiver
  obtain ⟨_, other, standsInCallee, exchangedCallee, renewed⟩ :=
    exchanged.within_child stands calls (Focus.isWithin_of_mem_subtree inCallee)
  obtain ⟨_, newReceiver, standsInReceiver, exchangedReceiver, renewedCallee⟩ :=
    exchangedCallee.within_child standsInCallee object (Focus.isWithin_of_mem_subtree inReceiver)
  have same := exchangedReceiver.sameCall standsInReceiver among isArgument silent
  have property : other.memberProperty? = callee.node.memberProperty? :=
    (renewedCallee.siblings .property (by decide)).map_eq Node.unplaced_text
  have selector : receiverSelector? other = receiverSelector? callee.node := by
    simp only [receiverSelector?, renewedCallee.child, ← callee.child?_map_node, object, Option.map_some,
      same.kind, queryText?_of_sameCall same]
  have values : after.callArguments.map Node.stringValue? = call.node.callArguments.map Node.stringValue? := by
    rw [Node.callArguments_map_stringValue?, Node.callArguments_map_stringValue?,
      (renewed.siblings .arguments (by decide)).map_eq Node.argumentValues_unplaced]
  refine ⟨other, ⟨renewed.child, renewedCallee.kind.trans page.isMember, property ▸ page.named⟩, ?_⟩
  exact readPageAction_congr method selector (Node.argument_of_values values 0)
    (Node.argument_of_values values 1)

end

/-- A page step shows the literals among the arguments that its method reads, in their order, an address
without its scheme; it is marked as computed if one of those is missing or no literal. No two of them are one
argument. An argument that is no
literal, of the call or of its receiver, can be exchanged for any other one that is none, and the step is the
same. -/
theorem page_steps_show_literals {settings : Settings} {call : Focus} {action : Action} {kind : StepKind}
    (classified : classify settings call = .action action) (isStep : action.kind = .step kind)
    (onPage : kind ≠ .assertion) :
    ∃ method callee, CallsPage method callee call.node ∧ kind = method.stepKind ∧
      List.Forall₂ (Shows method) (method.sources call) (action.target :: action.value.toList) ∧
      (action.isComputed = true ↔ ∃ source ∈ method.sources call, isGiven source = false) ∧
      (method.sources call).Pairwise Distinct ∧
      ∀ (argument : Focus) (part : Syntax.Node),
        (argument ∈ call.arguments ∨
          ∃ receiver, receiver? call = some receiver ∧ argument ∈ receiver.arguments) →
        argument.node.stringValue? = none → part.isArgument = true → part.stringValue? = none →
          (∃ place after, argument.position = place.reverse ++ call.position ∧
            Exchanged part place call.node after) ∧
          ∀ place (other : Focus), argument.position = place.reverse ++ call.position →
            Exchanged part place call.node other.node → classify settings other = .action action := by
  obtain ⟨method, callee, page, rfl⟩ := callsPage_of_classify classified isStep onPage
  obtain ⟨calleeFocus, calls, rfl⟩ : ∃ focus, call.child? .function = some focus ∧ focus.node = callee := by
    have found := page.calls
    rwa [Node.callee?, ← call.child?_map_node, Option.map_eq_some_iff] at found
  obtain ⟨texts, marked⟩ := readPageAction_eq calls
  have stepKind := (stepKind_readPageAction method calleeFocus.node call.node).symm.trans isStep
  refine ⟨method, calleeFocus.node, page, by simpa using stepKind.symm, ?_, ?_, sources_distinct method call, ?_⟩
  · rw [texts, List.forall₂_map_right_iff, List.forall₂_same]
    exact fun source _ => shows_literalAt? method source
  · simp [marked]
  · intro argument part among silent isArgument silentToo
    have same := silentToo.trans silent.symm
    rcases among with own | ⟨receiver, isReceiver, own⟩
    · refine ⟨exists_exchanged part (Focus.mem_subtree_of_mem_arguments own), ?_⟩
      intro place other stands exchanged
      obtain ⟨otherCallee, otherPage, unchanged⟩ :=
        callsPage_of_sameCall page (exchanged.sameCall stands own isArgument same)
      rw [classify_of_callsPage otherPage, unchanged]
    · obtain ⟨focus, callsToo, object, -⟩ := receiver?_eq_some_iff.mp isReceiver
      obtain rfl := Option.some.inj (calls.symm.trans callsToo)
      have inCallee := Focus.mem_subtree_of_child? object (Focus.mem_subtree_of_mem_arguments own)
      refine ⟨exists_exchanged part (Focus.mem_subtree_of_child? calls inCallee), ?_⟩
      intro place other stands exchanged
      obtain ⟨otherCallee, otherPage, unchanged⟩ :=
        callsPage_of_exchanged_receiver page calls object own isArgument same stands exchanged
      rw [classify_of_callsPage otherPage, unchanged]

def sampleMethodCall (object : Syntax.Node) (method : String) (arguments : List Syntax.Node) : Syntax.Node :=
  .plain .callExpression ""
    [(sampleMember object method).withField .function,
      (Node.plain .arguments "" arguments).withField .arguments]

/-- A field is found by a literal and filled with a text. -/
def sampleFill (text : Syntax.Node) : Syntax.Node :=
  let selector := .plain .string "" [.plain (.other "string_fragment") "#name" []]
  sampleMethodCall (sampleMethodCall (.plain .identifier "page" []) "locator" [selector]) "fill" [text]

def sampleSecret : Syntax.Node :=
  .plain .identifier "secret" []

def sampleLookup : Syntax.Node :=
  sampleMethodCall (.plain .identifier "env" []) "get" []

/-- The text is computed, and it makes no difference how. -/
theorem fill_of_sample : ∃ action argument,
    classify {} (.root (sampleFill sampleSecret)) = .action action ∧ action.kind = .step .fill ∧
      action.target :: action.value.toList = ["#name", ""] ∧
      argument ∈ (Focus.root (sampleFill sampleSecret)).arguments ∧ argument.position = [0, 1] ∧
      Exchanged sampleLookup [1, 0] (sampleFill sampleSecret) (sampleFill sampleLookup) ∧
      classify {} (.root (sampleFill sampleLookup)) = .action action := by
  have classified : classify {} (.root (sampleFill sampleSecret)) =
      .action { kind := .step .fill, target := "#name", value := some "", isComputed := true } := by
    decide +kernel
  obtain ⟨argument, among, stands, silent⟩ : ∃ argument ∈ (Focus.root (sampleFill sampleSecret)).arguments,
      argument.position = [0, 1] ∧ argument.node.stringValue? = none :=
    ⟨_, Focus.mem_arguments_iff.mpr ⟨_, rfl, rfl, List.mem_cons_self, rfl⟩, rfl, rfl⟩
  have exchanged : Exchanged sampleLookup [1, 0] (sampleFill sampleSecret) (sampleFill sampleLookup) := by
    refine .inside ⟨rfl, rfl, rfl, rfl, ?_⟩ (.inside ⟨rfl, rfl, rfl, rfl, ?_⟩ (.here rfl))
    · rintro (_ | _ | sibling) differ
      · rfl
      · exact absurd rfl differ
      · rfl
    · rintro (_ | sibling) differ
      · exact absurd rfl differ
      · rfl
  obtain ⟨method, callee, -, -, -, -, -, unchanged⟩ := page_steps_show_literals classified rfl (by decide)
  obtain ⟨-, same⟩ := unchanged argument sampleLookup (.inl among) silent rfl rfl
  exact ⟨_, argument, classified, rfl, rfl, among, stands, exchanged, same [1, 0] _ stands exchanged⟩

end TestFlow

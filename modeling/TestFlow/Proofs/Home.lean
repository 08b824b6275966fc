import TestFlow.Action.Classify
import TestFlow.Proofs.Diagram.Step
import TestFlow.Proofs.Syntax.Subtree

/-! # The home of a step

A walk opens a test at each declaration and closes the open one when it leaves a declaration, also one
whose test a nested declaration has closed long before. Told without a walk: a step belongs to the test
declared last before it, if it stands in the subtree of that declaration, and to the top level else.
-/

namespace TestFlow

open Syntax Diagram

/-- The calls of a subtree in preorder. -/
def callsWithin (focus : Focus) : List Focus :=
  focus.subtree.filter (·.node.isCall)

theorem callsWithin_eq (focus : Focus) :
    callsWithin focus =
      (if focus.node.isCall then [focus] else []) ++ focus.children.flatMap callsWithin := by
  have below : (focus.children.flatMap Focus.subtree).filter (·.node.isCall) =
      focus.children.flatMap callsWithin := List.filter_flatMap
  rw [callsWithin, Focus.subtree_eq, List.filter_cons, below]
  split <;> rfl

/-- The test declarations among calls. -/
def declarations (settings : Settings) (calls : List Focus) : List Focus :=
  calls.filter fun call => isTestDeclaration settings call.node

/-- The region of a step, given the tests declared before it: the last one if the step stands within its
declaration, else the top level. -/
def home (declared : List Focus) (call : Focus) : Region :=
  match declared.getLast? with
  | none => .topLevel
  | some test => if call.isWithin test then .test declared.length else .topLevel

/-- The calls that declare no test, each with its region, where some tests are declared before. -/
def placesAfter (settings : Settings) (declared : List Focus) : List Focus → List (Focus × Region)
  | [] => []
  | call :: rest =>
    if isTestDeclaration settings call.node then placesAfter settings (declared ++ [call]) rest
    else (call, home declared call) :: placesAfter settings declared rest

/-- Where a walk stands: the tests declared so far, and the region that steps are drawn in. -/
structure Standing where
  declared : List Focus := []
  region : Region := .topLevel

namespace Standing

variable (settings : Settings)

/-- Where a walk stands after an event. -/
def next (standing : Standing) : Event → Standing
  | .enter call =>
    if isTestDeclaration settings call.node then
      ⟨standing.declared ++ [call], .test (standing.declared.length + 1)⟩
    else standing
  | .leave _ => { standing with region := .topLevel }

/-- The call that an event places, with its region. -/
def place? (standing : Standing) : Event → Option (Focus × Region)
  | .enter call => if isTestDeclaration settings call.node then none else some (call, standing.region)
  | .leave _ => none

/-- Where a walk stands after events. -/
def after (standing : Standing) (events : List Event) : Standing :=
  events.foldl (next settings) standing

/-- The calls that events place, with their regions. -/
def places (standing : Standing) : List Event → List (Focus × Region)
  | [] => []
  | event :: rest => (standing.place? settings event).toList ++ (standing.next settings event).places rest

/-- Where a walk stands when it has gone through calls and is back from all of them. -/
def beyond (standing : Standing) (calls : List Focus) : Standing :=
  match declarations settings calls with
  | [] => standing
  | tests => ⟨standing.declared ++ tests, .topLevel⟩

theorem after_cons (standing : Standing) (event : Event) (rest : List Event) :
    standing.after settings (event :: rest) = (standing.next settings event).after settings rest :=
  rfl

theorem after_append (standing : Standing) (first second : List Event) :
    standing.after settings (first ++ second) = (standing.after settings first).after settings second :=
  List.foldl_append

theorem places_append (standing : Standing) (first second : List Event) :
    standing.places settings (first ++ second) =
      standing.places settings first ++ (standing.after settings first).places settings second := by
  induction first generalizing standing with
  | nil => rfl
  | cons event rest ih =>
    rw [List.cons_append, places, places, ih, List.append_assoc]
    rfl

theorem beyond_of_ne_nil (standing : Standing) {calls : List Focus}
    (some : declarations settings calls ≠ []) :
    standing.beyond settings calls = ⟨standing.declared ++ declarations settings calls, .topLevel⟩ := by
  unfold beyond
  split
  · contradiction
  · rfl

theorem beyond_declared (standing : Standing) (calls : List Focus) :
    (standing.beyond settings calls).declared = standing.declared ++ declarations settings calls := by
  cases tests : declarations settings calls <;> simp [beyond, tests]

theorem beyond_append (standing : Standing) (first second : List Focus) :
    standing.beyond settings (first ++ second) =
      (standing.beyond settings first).beyond settings second := by
  have both : declarations settings (first ++ second) =
      declarations settings first ++ declarations settings second := List.filter_append ..
  cases early : declarations settings first <;> cases late : declarations settings second <;>
    simp [beyond, both, early, late]

end Standing

section

variable {settings : Settings}

theorem placesAfter_append (declared first second : List Focus) :
    placesAfter settings declared (first ++ second) =
      placesAfter settings declared first ++
        placesAfter settings (declared ++ declarations settings first) second := by
  induction first generalizing declared with
  | nil => simp [placesAfter, declarations]
  | cons call rest ih =>
    by_cases declares : isTestDeclaration settings call.node = true <;>
      simp [placesAfter, declarations, declares, ih]

theorem home_append_singleton (declared : List Focus) (test call : Focus) :
    home (declared ++ [test]) call =
      if call.isWithin test then .test (declared.length + 1) else .topLevel := by
  simp [home]

/-- Events that go through calls: they lead beyond them and place them at home. -/
structure Follows (settings : Settings) (standing : Standing) (events : List Event) (calls : List Focus) :
    Prop where
  after : standing.after settings events = standing.beyond settings calls
  places : standing.places settings events = placesAfter settings standing.declared calls

/-- A standing from which a subtree can be entered: the region is the home of its root, and none of the
tests declared so far stands within it. -/
structure Standing.Fits (standing : Standing) (focus : Focus) : Prop where
  region : standing.region = home standing.declared focus
  outside : ∀ test ∈ standing.declared, test.isWithin focus = false

namespace Standing.Fits

variable {standing : Standing} {focus child other : Focus}

/-- What a subtree can be entered from, its parts can be entered from. -/
theorem descend (fits : standing.Fits focus) (member : child ∈ focus.children) : standing.Fits child := by
  have below := Focus.isWithin_of_mem_children member
  constructor
  · rw [fits.region, home, home]
    cases last : standing.declared.getLast? with
    | none => rfl
    | some test =>
      have outside := fits.outside test (List.mem_of_getLast? last)
      have same : focus.isWithin test = child.isWithin test := by
        rw [Bool.eq_iff_iff]
        refine ⟨Focus.isWithin_trans below, fun within => ?_⟩
        rcases Focus.isWithin_or below within with high | low
        · exact high
        · rw [outside] at low
          cases low
      simp only [same]
  · intro test declared
    have outside := fits.outside test declared
    rw [← Bool.not_eq_true] at outside ⊢
    exact fun within => outside (Focus.isWithin_trans within below)

/-- A declaration is entered like any call, and its test is home to all of its parts. -/
theorem entered (fits : standing.Fits focus) (member : child ∈ focus.children)
    (declares : isTestDeclaration settings focus.node = true) :
    (standing.next settings (.enter focus)).Fits child := by
  have below := Focus.isWithin_of_mem_children member
  rw [next, if_pos declares]
  constructor
  · rw [home_append_singleton, if_pos below]
  · intro test declared
    rcases List.mem_append.mp declared with early | own
    · exact (fits.descend member).outside test early
    · rw [List.mem_singleton.mp own]
      exact Focus.not_isWithin_child member

/-- A subtree can still be entered when the walk is back from another one apart from it. -/
theorem beyond (fits : standing.Fits focus) (apart : other.Apart focus) {calls : List Focus}
    (inside : ∀ call ∈ calls, call.isWithin other = true) :
    (standing.beyond settings calls).Fits focus := by
  have new : ∀ test ∈ declarations settings calls, test.isWithin other = true :=
    fun test declared => inside test (List.mem_filter.mp declared).1
  rcases List.eq_nil_or_concat (declarations settings calls) with none | ⟨before, last, tests⟩
  · simpa only [Standing.beyond, none] using fits
  · rw [standing.beyond_of_ne_nil settings (by simp [tests])]
    constructor
    · have lastInside := new last (by simp [tests])
      have away : focus.isWithin last = false := by
        rw [← Bool.not_eq_true]
        intro within
        have := apart focus (Focus.isWithin_trans within lastInside)
        rw [Focus.isWithin_self] at this
        cases this
      rw [tests, List.concat_eq_append, ← List.append_assoc, home_append_singleton, away]
      rfl
    · intro test declared
      rcases List.mem_append.mp declared with early | late
      · exact fits.outside test early
      · exact apart test (new test late)

end Standing.Fits

theorem isWithin_of_mem_callsWithin {focus call : Focus} (member : call ∈ callsWithin focus) :
    call.isWithin focus = true :=
  Focus.isWithin_of_mem_subtree (List.mem_filter.mp member).1

/-- Visits of siblings lead beyond the calls of all of them. -/
theorem Standing.after_siblings {foci : List Focus}
    (each : ∀ focus ∈ foci, ∀ standing : Standing,
      standing.after settings (focus.visits (isTestDeclaration settings)) =
        standing.beyond settings (callsWithin focus))
    (standing : Standing) :
    standing.after settings (foci.flatMap (Focus.visits (isTestDeclaration settings))) =
      standing.beyond settings (foci.flatMap callsWithin) := by
  induction foci generalizing standing with
  | nil => rfl
  | cons focus rest ih =>
    rw [List.flatMap_cons, List.flatMap_cons, after_append, each focus List.mem_cons_self, beyond_append,
      ih fun other member => each other (List.mem_cons_of_mem _ member)]

/-- A test declaration is left at top level, whatever its parts have opened and closed. -/
theorem Standing.after_declaration {focus : Focus} (declares : isTestDeclaration settings focus.node = true)
    {standing : Standing} {events : List Event} {calls : List Focus}
    (parts : (standing.next settings (.enter focus)).after settings events =
      (standing.next settings (.enter focus)).beyond settings calls) :
    standing.after settings (.enter focus :: (events ++ [.leave focus])) =
      standing.beyond settings (focus :: calls) := by
  have entered : standing.next settings (.enter focus) =
      ⟨standing.declared ++ [focus], .test (standing.declared.length + 1)⟩ := if_pos declares
  have opened : declarations settings (focus :: calls) = focus :: declarations settings calls :=
    List.filter_cons_of_pos declares
  have left : standing.after settings (.enter focus :: (events ++ [.leave focus])) =
      ⟨((standing.next settings (.enter focus)).after settings events).declared, .topLevel⟩ := by
    simp only [Standing.after, List.foldl_cons, List.foldl_append, List.foldl_nil]
    rfl
  rw [left, parts, Standing.beyond_declared, entered, standing.beyond_of_ne_nil settings (by simp [opened]),
    opened, List.append_assoc, List.singleton_append]

/-- Visits of a subtree lead beyond its calls, wherever they start. -/
theorem Standing.after_visits (settings : Settings) (focus : Focus) (standing : Standing) :
    standing.after settings (focus.visits (isTestDeclaration settings)) =
      standing.beyond settings (callsWithin focus) := by
  induction focus using Focus.induction generalizing standing with
  | below focus ih =>
    have parts := after_siblings ih
    rw [Focus.visits_eq, callsWithin_eq]
    cases isCall : focus.node.isCall with
    | false => simpa using parts standing
    | true =>
      cases declares : isTestDeclaration settings focus.node with
      | false =>
        have none : declarations settings [focus] = [] := by simp [declarations, declares]
        have stays : standing.next settings (.enter focus) = standing.beyond settings [focus] := by
          simp only [next, beyond, declares, none, Bool.false_eq_true, if_false]
        have below := parts (standing.beyond settings [focus])
        rw [← beyond_append, ← stays, ← after_cons] at below
        simpa using below
      | true => simpa using after_declaration declares (parts (standing.next settings (.enter focus)))

/-- Visits of siblings place the calls of one after those of the other. -/
theorem Standing.places_siblings {foci : List Focus} (apart : foci.Pairwise Focus.Apart)
    (each : ∀ focus ∈ foci, ∀ standing : Standing, standing.Fits focus →
      standing.places settings (focus.visits (isTestDeclaration settings)) =
        placesAfter settings standing.declared (callsWithin focus))
    {standing : Standing} (fits : ∀ focus ∈ foci, standing.Fits focus) :
    standing.places settings (foci.flatMap (Focus.visits (isTestDeclaration settings))) =
      placesAfter settings standing.declared (foci.flatMap callsWithin) := by
  induction foci generalizing standing with
  | nil => rfl
  | cons focus rest ih =>
    obtain ⟨first, later⟩ := List.pairwise_cons.mp apart
    have behind : ∀ other ∈ rest, (standing.beyond settings (callsWithin focus)).Fits other :=
      fun other member => (fits other (List.mem_cons_of_mem _ member)).beyond (first other member)
        fun call => isWithin_of_mem_callsWithin
    rw [List.flatMap_cons, List.flatMap_cons, places_append, after_visits,
      each focus List.mem_cons_self standing (fits focus List.mem_cons_self),
      ih later (fun other member => each other (List.mem_cons_of_mem _ member)) behind, placesAfter_append,
      beyond_declared]

/-- Visits of a subtree that can be entered place its calls at home. -/
theorem Standing.Fits.places_visits {focus : Focus} {standing : Standing} (fits : standing.Fits focus) :
    standing.places settings (focus.visits (isTestDeclaration settings)) =
      placesAfter settings standing.declared (callsWithin focus) := by
  induction focus using Focus.induction generalizing standing with
  | below focus ih =>
    have parts (standing : Standing) (fits : ∀ child ∈ focus.children, standing.Fits child) :=
      places_siblings focus.children_apart (fun child member standing fits => ih child member fits) fits
    rw [Focus.visits_eq, callsWithin_eq]
    cases isCall : focus.node.isCall with
    | false => simpa using parts standing fun child => fits.descend
    | true =>
      cases declares : isTestDeclaration settings focus.node with
      | false =>
        have below := parts standing fun child => fits.descend
        simpa [places, place?, next, placesAfter, declares, fits.region] using below
      | true =>
        have below := parts (standing.next settings (.enter focus)) fun child member =>
          fits.entered member declares
        simpa [places, place?, next, placesAfter, declares, places_append] using below

/-- Visits of a subtree that can be entered. -/
theorem follows_visits (settings : Settings) (focus : Focus) {standing : Standing}
    (fits : standing.Fits focus) :
    Follows settings standing (focus.visits (isTestDeclaration settings)) (callsWithin focus) :=
  ⟨standing.after_visits settings focus, fits.places_visits⟩

end

end TestFlow

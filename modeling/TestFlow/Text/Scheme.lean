/-! # Web addresses without their scheme

A leading `http://` or `https://` is dropped once, in any letter case. The optional `s` may also be
the long s `ſ`, which is another small letter of the same capital.
-/

namespace TestFlow.Text

/-- The text after the given small letters, met in any case. -/
def afterLetters? : List Char → List Char → Option (List Char)
  | [], text => some text
  | _ :: _, [] => none
  | small :: letters, c :: text => if c.toLower = small then afterLetters? letters text else none

/-- The web schemes, in small letters. -/
def schemes : List (List Char) :=
  ["http://".toList, "https://".toList, "httpſ://".toList]

/-- The text after a leading web scheme, if there is one. -/
def afterScheme? (text : List Char) : Option (List Char) :=
  schemes.findSome? (afterLetters? · text)

/-- Drop one leading web scheme. -/
def stripScheme (text : String) : String :=
  match afterScheme? text.toList with
  | some address => .ofList address
  | none => text

/-! ## What is dropped -/

/-- A web scheme, in any letter case. -/
def IsScheme (front : List Char) : Prop :=
  front.map Char.toLower = "http://".toList ∨ front.map Char.toLower = "https://".toList ∨
    front.map Char.toLower = "httpſ://".toList

/-- What a text is without a web scheme in front of it: the rest behind one scheme, or all of a text that
starts with none. -/
inductive WithoutScheme (text : String) : String → Prop where
  | dropped {front : List Char} {address : String} (isScheme : IsScheme front)
      (split : text.toList = front ++ address.toList) : WithoutScheme text address
  | kept (bare : ∀ front rest, IsScheme front → text.toList ≠ front ++ rest) : WithoutScheme text text

theorem afterLetters?_eq_some_iff {letters text rest : List Char} :
    afterLetters? letters text = some rest ↔
      ∃ front, front.map Char.toLower = letters ∧ text = front ++ rest := by
  induction letters generalizing text with
  | nil => simp [afterLetters?]
  | cons small letters ih =>
    cases text with
    | nil =>
      simp only [afterLetters?, List.map_eq_cons_iff, reduceCtorEq, false_iff]
      rintro ⟨_, ⟨c, front, rfl, -⟩, split⟩
      cases split
    | cons c text =>
      simp only [afterLetters?, Option.ite_none_right_eq_some, ih, List.map_eq_cons_iff]
      constructor
      · rintro ⟨same, front, spelt, rfl⟩
        exact ⟨c :: front, ⟨c, front, rfl, same, spelt⟩, rfl⟩
      · rintro ⟨_, ⟨_, front, rfl, same, spelt⟩, split⟩
        cases split
        exact ⟨same, front, spelt, rfl⟩

theorem isScheme_iff {front : List Char} : IsScheme front ↔ front.map Char.toLower ∈ schemes := by
  simp [IsScheme, schemes]

/-- Schemes are equally long or part at their fifth letter, so a text starts with one of them at most. -/
theorem IsScheme.eq_of_append_eq {front other rest last : List Char} (isScheme : IsScheme front)
    (isOther : IsScheme other) (same : front ++ rest = other ++ last) : rest = last := by
  have long : ∀ scheme ∈ schemes, 5 ≤ scheme.length := by decide
  have part : ∀ first ∈ schemes, ∀ second ∈ schemes,
      first.length = second.length ∨ first.take 5 ≠ second.take 5 := by decide
  have first := isScheme_iff.mp isScheme
  have second := isScheme_iff.mp isOther
  have spelt := congrArg (fun text => (text.map Char.toLower).take 5) same
  simp only [List.map_append] at spelt
  rw [List.take_append_of_le_length (long _ first), List.take_append_of_le_length (long _ second)] at spelt
  have sameLength := (part _ first _ second).resolve_right (not_not_intro spelt)
  rw [List.length_map, List.length_map] at sameLength
  exact (List.append_inj same sameLength).2

theorem afterScheme?_eq_some_iff {text address : List Char} :
    afterScheme? text = some address ↔ ∃ front, IsScheme front ∧ text = front ++ address := by
  have sound {text address : List Char} (found : afterScheme? text = some address) :
      ∃ front, IsScheme front ∧ text = front ++ address := by
    obtain ⟨scheme, known, after⟩ := List.exists_of_findSome?_eq_some found
    obtain ⟨front, rfl, split⟩ := afterLetters?_eq_some_iff.mp after
    exact ⟨front, isScheme_iff.mpr known, split⟩
  refine ⟨sound, ?_⟩
  rintro ⟨front, isScheme, split⟩
  cases found : afterScheme? text with
  | none =>
    have missed := List.findSome?_eq_none_iff.mp found _ (isScheme_iff.mp isScheme)
    rw [afterLetters?_eq_some_iff.mpr ⟨front, rfl, split⟩] at missed
    cases missed
  | some rest =>
    obtain ⟨other, isOther, splitToo⟩ := sound found
    rw [isOther.eq_of_append_eq isScheme (splitToo.symm.trans split)]

/-- Stripping drops one leading scheme and nothing else. -/
theorem withoutScheme_iff {text address : String} : WithoutScheme text address ↔ stripScheme text = address := by
  unfold stripScheme
  constructor
  · rintro (⟨isScheme, split⟩ | bare)
    · rw [afterScheme?_eq_some_iff.mpr ⟨_, isScheme, split⟩]
      exact String.ofList_toList
    · have missed : afterScheme? text.toList = none := by
        rw [Option.eq_none_iff_forall_ne_some]
        intro rest found
        obtain ⟨front, isScheme, split⟩ := afterScheme?_eq_some_iff.mp found
        exact bare front rest isScheme split
      rw [missed]
  · rintro rfl
    cases found : afterScheme? text.toList with
    | none =>
      refine .kept fun front rest isScheme split => ?_
      rw [afterScheme?_eq_some_iff.mpr ⟨front, isScheme, split⟩] at found
      cases found
    | some rest =>
      obtain ⟨front, isScheme, split⟩ := afterScheme?_eq_some_iff.mp found
      exact .dropped isScheme (by rw [String.toList_ofList, split])

theorem withoutScheme_stripScheme (text : String) : WithoutScheme text (stripScheme text) :=
  withoutScheme_iff.mpr rfl

end TestFlow.Text

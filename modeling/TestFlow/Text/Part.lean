/-! # Parts of a text -/

namespace TestFlow.Text

/-- Whether the part stands somewhere in the whole as one piece. -/
def hasPart (part : List Char) : List Char → Bool
  | [] => part.isEmpty
  | c :: rest => part.isPrefixOf (c :: rest) || hasPart part rest

theorem hasPart_iff {part whole : List Char} : hasPart part whole = true ↔ part <:+: whole := by
  induction whole with
  | nil => simp [hasPart]
  | cons c rest ih => simp [hasPart, List.infix_cons_iff, ih]

/-- The text after a given beginning, if it begins so. -/
def after? (beginning : List Char) (text : List Char) : Option (List Char) :=
  if beginning.isPrefixOf text then some (text.drop beginning.length) else none

theorem after?_eq_some_iff {beginning text rest : List Char} :
    after? beginning text = some rest ↔ text = beginning ++ rest := by
  unfold after?
  constructor
  · intro found
    split at found
    · rename_i begins
      obtain ⟨tail, rfl⟩ := List.isPrefixOf_iff_prefix.mp begins
      simp_all
    · cases found
  · rintro rfl
    simp

end TestFlow.Text

/-! # Blanking runs of characters

Each maximal run of unwanted characters becomes one blank. The result holds no unwanted character
(unless the blank is one), and all that are wanted.
-/

namespace TestFlow.Text

/-- One blank for each maximal run of unwanted characters; `inRun` says that the run the text starts
with has its blank already. -/
def blankRunsFrom (unwanted : Char → Bool) (inRun : Bool) : List Char → List Char
  | [] => []
  | c :: rest =>
    if unwanted c then
      if inRun then blankRunsFrom unwanted true rest
      else ' ' :: blankRunsFrom unwanted true rest
    else c :: blankRunsFrom unwanted false rest

/-- One blank for each maximal run of unwanted characters. -/
def blankRuns (unwanted : Char → Bool) (text : List Char) : List Char :=
  blankRunsFrom unwanted false text

theorem mem_blankRunsFrom {unwanted : Char → Bool} {inRun : Bool} {text : List Char} {c : Char}
    (found : c ∈ blankRunsFrom unwanted inRun text) : c = ' ' ∨ (c ∈ text ∧ unwanted c = false) := by
  induction text generalizing inRun with
  | nil => simp [blankRunsFrom] at found
  | cons head rest ih =>
    unfold blankRunsFrom at found
    split at found
    · split at found
      · exact (ih found).imp_right fun ⟨member, wanted⟩ => ⟨List.mem_cons_of_mem _ member, wanted⟩
      · rcases List.mem_cons.mp found with rfl | later
        · exact .inl rfl
        · exact (ih later).imp_right fun ⟨member, wanted⟩ => ⟨List.mem_cons_of_mem _ member, wanted⟩
    · rename_i wanted
      rcases List.mem_cons.mp found with rfl | later
      · exact .inr ⟨List.mem_cons_self, by simpa using wanted⟩
      · exact (ih later).imp_right fun ⟨member, wanted⟩ => ⟨List.mem_cons_of_mem _ member, wanted⟩

/-- No wanted character is lost. -/
theorem mem_blankRunsFrom_of_wanted {unwanted : Char → Bool} {inRun : Bool} {text : List Char} {c : Char}
    (member : c ∈ text) (wanted : unwanted c = false) : c ∈ blankRunsFrom unwanted inRun text := by
  induction text generalizing inRun with
  | nil => cases member
  | cons head rest ih =>
    unfold blankRunsFrom
    rcases List.mem_cons.mp member with rfl | later
    · simp [wanted]
    · split
      · split
        · exact ih later
        · exact List.mem_cons_of_mem _ (ih later)
      · exact List.mem_cons_of_mem _ (ih later)

end TestFlow.Text

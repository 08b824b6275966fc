import Mathlib.Data.List.TakeWhile
import TestFlow.CommandLine.Markup

/-! # Which texts can be shown

On the console that leaves tags out, a text with markup is shown unless a closing tag in it closes nothing. Texts whose
tags have been made plain are always shown, whatever they hold. So the console obeys the laws that a program counts on.
-/

namespace TestFlow.CommandLine.Markup

/-- Whether characters can be what stands in the brackets of a tag. -/
def IsBody (body : List Char) : Prop :=
  ∃ c tail, body = c :: tail ∧ opensTag c = true ∧ ∀ d ∈ tail, d ≠ ']' ∧ d ≠ '['

section

variable {text rest body after : List Char} {tag : Tag} {looks : List String} {c : Char}

/-! ## Tags -/

theorem IsBody.no_bracket (isBody : IsBody body) : '[' ∉ body := by
  obtain ⟨c, tail, rfl, opens, plain⟩ := isBody
  intro member
  rcases List.mem_cons.mp member with rfl | inTail
  · revert opens
    decide
  · exact (plain _ inTail).2 rfl

theorem drop_length_takeWhile (wanted : Char → Bool) (text : List Char) :
    text.drop (text.takeWhile wanted).length = text.dropWhile wanted := by
  induction text with
  | nil => rfl
  | cons c rest ih =>
    cases holds : wanted c with
    | false => simp [holds]
    | true => simpa [holds] using ih

theorem takeWhile_slashes (text : List Char) :
    text.takeWhile (· = '\\') = List.replicate (text.takeWhile (· = '\\')).length '\\' :=
  List.eq_replicate_iff.mpr ⟨rfl, fun c member => by simpa using List.mem_takeWhile_imp member⟩

theorem tag?_eq_some_iff :
    tag? text = some tag ↔
      IsBody tag.body ∧ text = List.replicate tag.slashes '\\' ++ '[' :: (tag.body ++ ']' :: tag.after) := by
  simp only [tag?, drop_length_takeWhile]
  constructor
  · intro found
    have cut := List.takeWhile_append_dropWhile (p := (· = '\\')) (l := text)
    rw [takeWhile_slashes] at cut
    split at found
    · rename_i c rest opened
      split at found
      · rename_i after closed
        split at found
        · rename_i opens
          obtain rfl := Option.some.inj found
          have inside := List.takeWhile_append_dropWhile (p := fun d => d ≠ ']' && d ≠ '[') (l := rest)
          refine ⟨⟨c, _, rfl, opens, fun d member => by simpa using List.mem_takeWhile_imp member⟩, ?_⟩
          rw [List.cons_append, ← closed, inside, ← opened, cut]
        · cases found
      · cases found
    · cases found
  · obtain ⟨slashes, body, after⟩ := tag
    rintro ⟨⟨c, tail, rfl, opens, plain⟩, rfl⟩
    have slash : ∀ d ∈ List.replicate slashes '\\', decide (d = '\\') = true := by simp
    have inside : ∀ d ∈ tail, (!decide (d = ']') && !decide (d = '[')) = true := by simpa using plain
    rw [List.takeWhile_append_of_pos slash, List.dropWhile_append_of_pos slash]
    simp [List.takeWhile_append_of_pos inside, List.dropWhile_append_of_pos inside, opens]

theorem tag?_backslash (text : List Char) :
    tag? ('\\' :: text) = (tag? text).map fun tag => { tag with slashes := tag.slashes + 1 } := by
  cases found : tag? text with
  | some tag =>
    obtain ⟨isBody, rfl⟩ := tag?_eq_some_iff.mp found
    exact tag?_eq_some_iff.mpr ⟨isBody, by simp [List.replicate_succ]⟩
  | none =>
    cases foundToo : tag? ('\\' :: text) with
    | none => rfl
    | some tag =>
      obtain ⟨isBody, split⟩ := tag?_eq_some_iff.mp foundToo
      obtain ⟨slashes, body, after⟩ := tag
      cases slashes with
      | zero => simp at split
      | succ count =>
        have tagged : tag? text = some ⟨count, body, after⟩ :=
          tag?_eq_some_iff.mpr ⟨isBody, by simpa [List.replicate_succ] using split⟩
        rw [found] at tagged
        cases tagged

theorem tag?_eq_none_of_no_bracket (plain : '[' ∉ text) : tag? text = none := by
  cases found : tag? text with
  | none => rfl
  | some tag =>
    obtain ⟨-, rfl⟩ := tag?_eq_some_iff.mp found
    simp at plain

theorem tag?_plain (notSlash : c ≠ '\\') (notBracket : c ≠ '[') : tag? (c :: text) = none := by
  cases found : tag? (c :: text) with
  | none => rfl
  | some tag =>
    obtain ⟨-, split⟩ := tag?_eq_some_iff.mp found
    cases slashes : tag.slashes with
    | zero => simp [slashes, notBracket] at split
    | succ count => simp [slashes, List.replicate_succ, notSlash] at split

theorem length_after_lt (found : tag? text = some tag) : tag.after.length < text.length := by
  obtain ⟨-, rfl⟩ := tag?_eq_some_iff.mp found
  simp only [List.length_append, List.length_cons]
  omega

/-! ## Texts whose closing tags all close something -/

/-- Whether a text can be shown where the looks are open: no closing tag in it closes nothing. -/
inductive Sound : List String → List Char → Prop where
  | nil {looks : List String} : Sound looks []
  | plain {looks : List String} {c : Char} {rest : List Char} (noTag : tag? (c :: rest) = none)
      (later : Sound looks rest) : Sound looks (c :: rest)
  | escaped {looks : List String} {text : List Char} {tag : Tag} (found : tag? text = some tag)
      (odd : tag.slashes % 2 = 1) (later : Sound looks tag.after) : Sound looks text
  | tagged {looks further : List String} {text : List Char} {tag : Tag} (found : tag? text = some tag)
      (even : tag.slashes % 2 ≠ 1) (closes : afterTag 0 looks tag.body = .ok further)
      (later : Sound further tag.after) : Sound looks text

theorem sound_plain_iff (noTag : tag? (c :: rest) = none) : Sound looks (c :: rest) ↔ Sound looks rest := by
  constructor
  · intro sound
    cases sound with
    | plain _ later => exact later
    | escaped found => simp [noTag] at found
    | tagged found => simp [noTag] at found
  · exact .plain noTag

theorem sound_escaped_iff (found : tag? text = some tag) (odd : tag.slashes % 2 = 1) :
    Sound looks text ↔ Sound looks tag.after := by
  constructor
  · intro sound
    cases sound with
    | nil => cases found
    | plain noTag => simp [noTag] at found
    | escaped foundToo _ later =>
      obtain rfl := Option.some.inj (found.symm.trans foundToo)
      exact later
    | tagged foundToo even =>
      obtain rfl := Option.some.inj (found.symm.trans foundToo)
      exact absurd odd even
  · exact .escaped found odd

theorem sound_tagged_iff (found : tag? text = some tag) (even : tag.slashes % 2 ≠ 1) :
    Sound looks text ↔ ∃ further, afterTag 0 looks tag.body = .ok further ∧ Sound further tag.after := by
  constructor
  · intro sound
    cases sound with
    | nil => cases found
    | plain noTag => simp [noTag] at found
    | escaped foundToo odd =>
      obtain rfl := Option.some.inj (found.symm.trans foundToo)
      exact absurd odd even
    | tagged foundToo _ closes later =>
      obtain rfl := Option.some.inj (found.symm.trans foundToo)
      exact ⟨_, closes, later⟩
  · rintro ⟨further, closes, later⟩
    exact .tagged found even closes later

/-! ## Rendering -/

theorem afterTag_eq_ok_iff {position : Nat} {further : List String} :
    afterTag position looks body = .ok further ↔ afterTag 0 looks body = .ok further := by
  simp only [afterTag]
  split
  · split
    · cases looks <;> simp
    · split <;> simp
  · rfl

theorem exists_ok_map {α β : Type} {came : Except String α} {f : α → β} :
    (∃ value, (do let found ← came; return f found) = .ok value) ↔ ∃ found, came = .ok found := by
  cases came <;> simp [bind, Except.bind, pure, Except.pure]

theorem renderFrom_eq_ok_iff {bound position : Nat} (enough : text.length ≤ bound) :
    (∃ shown, renderFrom bound position looks text = .ok shown) ↔ Sound looks text := by
  induction bound generalizing position looks text with
  | zero =>
    obtain rfl := List.length_eq_zero_iff.mp (Nat.le_zero.mp enough)
    exact ⟨fun _ => .nil, fun _ => ⟨[], rfl⟩⟩
  | succ bound ih =>
    cases text with
    | nil => exact ⟨fun _ => .nil, fun _ => ⟨[], rfl⟩⟩
    | cons c rest =>
      cases found : tag? (c :: rest) with
      | none =>
        rw [sound_plain_iff found, ← ih (Nat.le_of_succ_le_succ enough)]
        simp only [renderFrom, found]
        exact exists_ok_map
      | some tag =>
        have shorter : tag.after.length ≤ bound := by
          have := length_after_lt found
          omega
        simp only [renderFrom, found]
        split
        · rename_i odd
          rw [sound_escaped_iff found odd, ← ih shorter]
          exact exists_ok_map
        · rename_i even
          rw [sound_tagged_iff found even]
          cases closed : afterTag (position + tag.slashes) looks tag.body with
          | error failure =>
            constructor
            · rintro ⟨_, shown⟩
              cases shown
            · rintro ⟨further, closes, -⟩
              rw [← afterTag_eq_ok_iff, closed] at closes
              cases closes
          | ok further =>
            simp only [afterTag_eq_ok_iff.mp closed, Except.ok.injEq, exists_eq_left']
            rw [← ih shorter]
            exact exists_ok_map

/-- Whether a text can be shown. -/
def CanShow (text : String) : Prop :=
  ∃ shown, render text = .ok shown

theorem canShow_iff {text : String} : CanShow text ↔ Sound [] text.toList := by
  rw [← renderFrom_eq_ok_iff (Nat.le_refl _)]
  exact exists_ok_map

/-! ## Ordinary texts -/

theorem afterTag_opening {position : Nat} (opens : body.head? ≠ some '/') :
    afterTag position looks body = .ok (lookName (tagName body) :: looks) := by
  cases body with
  | nil => rfl
  | cons c tail =>
    have notSlash : c ≠ '/' := by simpa using opens
    by_cases parameters : c = '='
    · simp [afterTag, tagName, parameters]
    · simp [afterTag, tagName, parameters, notSlash]

/-- Only a closing tag can spoil a text. -/
theorem sound_of_no_closing (plain : ¬ ['[', '/'] <:+: text) : Sound looks text := by
  induction size : text.length using Nat.strong_induction_on generalizing text looks with
  | _ bound ih =>
    subst size
    have clear {rest : List Char} (ends : rest <:+ text) : ¬ ['[', '/'] <:+: rest :=
      fun within => plain (within.trans ends.isInfix)
    cases found : tag? text with
    | none =>
      cases text with
      | nil => exact .nil
      | cons c rest =>
        exact .plain found (ih rest.length (by simp) (clear (List.suffix_cons c rest)) rfl)
    | some tag =>
      obtain ⟨-, cut⟩ := tag?_eq_some_iff.mp found
      have ends : tag.after <:+ text :=
        ⟨List.replicate tag.slashes '\\' ++ '[' :: (tag.body ++ [']']), by rw [cut]; simp⟩
      have later (looks : List String) : Sound looks tag.after :=
        ih tag.after.length (length_after_lt found) (clear ends) rfl
      have opens : tag.body.head? ≠ some '/' := by
        intro closing
        obtain ⟨tail, body⟩ := List.head?_eq_some_iff.mp closing
        exact plain ⟨List.replicate tag.slashes '\\', tail ++ ']' :: tag.after, by rw [cut, body]; simp⟩
      by_cases odd : tag.slashes % 2 = 1
      · exact .escaped found odd (later looks)
      · exact .tagged found odd (afterTag_opening opens) (later _)

theorem canShow_of_no_closing {text : String} (plain : ¬ ['[', '/'] <:+: text.toList) : CanShow text :=
  canShow_iff.mpr (sound_of_no_closing plain)

theorem canShow_of_no_bracket {text : String} (plain : '[' ∉ text.toList) : CanShow text :=
  canShow_of_no_closing fun closing => plain (closing.subset (by simp))

theorem sound_append_iff {words : List Char} (plain : words.all isPlain = true) :
    Sound looks (words ++ rest) ↔ Sound looks rest := by
  induction words with
  | nil => rfl
  | cons c words ih =>
    rw [List.all_cons, Bool.and_eq_true] at plain
    obtain ⟨first, plainLater⟩ := plain
    obtain ⟨notSlash, notBracket⟩ : c ≠ '\\' ∧ c ≠ '[' := by simpa [isPlain] using first
    rw [List.cons_append, sound_plain_iff (tag?_plain notSlash notBracket)]
    exact ih plainLater

/-- Whether characters are a look that a title can have: a name without parameters that opens a tag. -/
structure IsLook (look : List Char) : Prop where
  opens : look.head?.any opensTag = true
  plain : look.all (fun c => c ≠ ']' && c ≠ '[' && c ≠ '=' && c ≠ '/') = true
  named : (trim look).isEmpty = false

section

variable {look title : List Char}

theorem IsLook.plain_of_mem {c : Char} (isLook : IsLook look) (member : c ∈ look) :
    (c ≠ ']' ∧ c ≠ '[') ∧ c ≠ '=' ∧ c ≠ '/' := by
  simpa [and_assoc] using List.all_eq_true.mp isLook.plain c member

theorem IsLook.isBody (isLook : IsLook look) : IsBody look := by
  cases look with
  | nil => exact absurd isLook.opens (by decide)
  | cons c tail =>
    exact ⟨c, tail, rfl, isLook.opens, fun d member => (isLook.plain_of_mem (List.mem_cons_of_mem c member)).1⟩

theorem IsLook.closing_isBody (isLook : IsLook look) : IsBody ('/' :: look) :=
  ⟨'/', look, rfl, by decide, fun _ member => (isLook.plain_of_mem member).1⟩

theorem IsLook.tagName_eq (isLook : IsLook look) : tagName look = look := by
  refine List.takeWhile_eq_self_iff.mpr fun c member => ?_
  simpa using (isLook.plain_of_mem member).2.1

theorem afterTag_look (isLook : IsLook look) : afterTag 0 looks look = .ok (lookName look :: looks) := by
  have opens : look.head? ≠ some '/' :=
    fun closing => (isLook.plain_of_mem (List.mem_of_head? closing)).2.2 rfl
  rw [afterTag_opening opens, isLook.tagName_eq]

theorem afterTag_closing (isLook : IsLook look) :
    afterTag 0 (lookName look :: looks) ('/' :: look) = .ok looks := by
  have name : tagName ('/' :: look) = '/' :: look := by
    have rest : tagName look = look := isLook.tagName_eq
    simpa [tagName] using rest
  simp [afterTag, name, isLook.named]

/-- A title in a look of its own leaves the looks as they are. -/
theorem sound_styled_iff (isLook : IsLook look) (plain : title.all isPlain = true) :
    Sound looks ('[' :: (look ++ ']' :: (title ++ '[' :: ('/' :: look ++ ']' :: rest)))) ↔ Sound looks rest := by
  have opening : tag? ('[' :: (look ++ ']' :: (title ++ '[' :: ('/' :: look ++ ']' :: rest)))) =
      some ⟨0, look, title ++ '[' :: ('/' :: look ++ ']' :: rest)⟩ :=
    tag?_eq_some_iff.mpr ⟨isLook.isBody, rfl⟩
  have closing : tag? ('[' :: ('/' :: look ++ ']' :: rest)) = some ⟨0, '/' :: look, rest⟩ :=
    tag?_eq_some_iff.mpr ⟨isLook.closing_isBody, rfl⟩
  rw [sound_tagged_iff opening Nat.zero_ne_one, afterTag_look isLook]
  simp only [Except.ok.injEq, exists_eq_left']
  rw [sound_append_iff plain, sound_tagged_iff closing Nat.zero_ne_one, afterTag_closing isLook]
  simp only [Except.ok.injEq, exists_eq_left']

end

/-! ## Texts whose tags have been made plain -/

section

variable {bound : Nat} {ending : List Char}

theorem prefix_of_not_mem {front first later : List Char} {d : Char} (leads : front <+: first ++ d :: later)
    (absent : d ∉ front) : front <+: first := by
  have upTo : first ++ [d] <+: first ++ d :: later := ⟨later, by simp⟩
  rcases List.prefix_or_prefix_of_prefix leads upTo with within | beyond
  · rcases List.prefix_concat_iff.mp within with same | inFirst
    · exact absurd (by simp [same]) absent
    · exact inFirst
  · exact absurd (beyond.subset (by simp)) absent

theorem escapeFrom_of_tag (found : tag? (c :: rest) = some tag) :
    escapeFrom (bound + 1) (c :: rest) = List.replicate (2 * tag.slashes + 1) '\\' ++
      '[' :: (tag.body ++ ']' :: escapeFrom bound tag.after) := by
  simp [escapeFrom, found]

theorem escapeFrom_of_no_tag (noTag : tag? (c :: rest) = none) :
    escapeFrom (bound + 1) (c :: rest) = c :: escapeFrom bound rest := by
  simp only [escapeFrom, noTag]

@[simp] theorem escapeFrom_nil : escapeFrom bound [] = [] := by
  cases bound <;> rfl

theorem not_closed_ending {front : List Char} (ends : ending = [] ∨ ending = ['\\']) :
    ¬ front ++ [']'] <+: ending := by
  intro leads
  have inside : ']' ∈ ending := leads.subset (by simp)
  rcases ends with rfl | rfl <;> revert inside <;> decide

/-- No bracket is closed that was not closed before. -/
theorem closed_prefix_of_escapeFrom {front : List Char} (enough : text.length ≤ bound)
    (ends : ending = [] ∨ ending = ['\\']) (plain : '[' ∉ front)
    (leads : front ++ [']'] <+: escapeFrom bound text ++ ending) : front ++ [']'] <+: text := by
  induction bound generalizing text front with
  | zero =>
    obtain rfl := List.length_eq_zero_iff.mp (Nat.le_zero.mp enough)
    exact absurd leads (not_closed_ending ends)
  | succ bound ih =>
    cases text with
    | nil =>
      rw [escapeFrom_nil] at leads
      exact absurd leads (not_closed_ending ends)
    | cons c rest =>
      cases found : tag? (c :: rest) with
      | some tag =>
        rw [escapeFrom_of_tag found, List.append_assoc, List.cons_append] at leads
        have within := prefix_of_not_mem leads (by simpa using plain)
        have slash : ']' = '\\' := List.eq_of_mem_replicate (within.subset (by simp))
        exact absurd slash (by decide)
      | none =>
        rw [escapeFrom_of_no_tag found, List.cons_append] at leads
        cases front with
        | nil =>
          obtain ⟨rfl, -⟩ := List.cons_prefix_cons.mp leads
          simp
        | cons d front =>
          obtain ⟨rfl, later⟩ := List.cons_prefix_cons.mp leads
          have kept := ih (Nat.le_of_succ_le_succ enough) (mt (List.mem_cons_of_mem d) plain) later
          exact List.cons_prefix_cons.mpr ⟨rfl, kept⟩

theorem tag?_escapeFrom (enough : text.length ≤ bound) (ends : ending = [] ∨ ending = ['\\'])
    (noTag : tag? text = none) : tag? (escapeFrom bound text ++ ending) = none := by
  have endless : '[' ∉ ending := by rcases ends with rfl | rfl <;> decide
  induction bound generalizing text with
  | zero =>
    obtain rfl := List.length_eq_zero_iff.mp (Nat.le_zero.mp enough)
    exact tag?_eq_none_of_no_bracket endless
  | succ bound ih =>
    cases text with
    | nil =>
      rw [escapeFrom_nil]
      exact tag?_eq_none_of_no_bracket endless
    | cons c rest =>
      have shorter := Nat.le_of_succ_le_succ enough
      rw [escapeFrom_of_no_tag noTag, List.cons_append]
      by_cases slash : c = '\\'
      · subst slash
        rw [tag?_backslash, Option.map_eq_none_iff] at noTag ⊢
        exact ih shorter noTag
      · by_cases bracket : c = '['
        · subst bracket
          -- A tag here would be one in the text before, for its brackets are closed there too.
          cases found : tag? ('[' :: (escapeFrom bound rest ++ ending)) with
          | none => rfl
          | some tag =>
            obtain ⟨slashes, body, after⟩ := tag
            obtain ⟨isBody, cut⟩ := tag?_eq_some_iff.mp found
            cases slashes with
            | succ count => simp [List.replicate_succ] at cut
            | zero =>
              have leads : body ++ [']'] <+: escapeFrom bound rest ++ ending :=
                ⟨after, by simpa using cut.symm⟩
              obtain ⟨later, closed⟩ := closed_prefix_of_escapeFrom shorter ends isBody.no_bracket leads
              have tagged : tag? ('[' :: rest) = some ⟨0, body, later⟩ :=
                tag?_eq_some_iff.mpr ⟨isBody, by simp [← closed]⟩
              rw [noTag] at tagged
              cases tagged
        · exact tag?_plain slash bracket

theorem sound_escapeFrom (enough : text.length ≤ bound) (ends : ending = [] ∨ ending = ['\\']) :
    Sound looks (escapeFrom bound text ++ ending) := by
  have last : Sound looks ending := sound_of_no_closing (by rcases ends with rfl | rfl <;> decide)
  induction bound generalizing text with
  | zero =>
    obtain rfl := List.length_eq_zero_iff.mp (Nat.le_zero.mp enough)
    exact last
  | succ bound ih =>
    cases text with
    | nil =>
      rw [escapeFrom_nil]
      exact last
    | cons c rest =>
      cases found : tag? (c :: rest) with
      | some tag =>
        have shorter : tag.after.length ≤ bound := by
          have := length_after_lt found
          omega
        have isBody := (tag?_eq_some_iff.mp found).1
        have escaped : tag? (escapeFrom (bound + 1) (c :: rest) ++ ending) =
            some ⟨2 * tag.slashes + 1, tag.body, escapeFrom bound tag.after ++ ending⟩ :=
          tag?_eq_some_iff.mpr ⟨isBody, by simp [escapeFrom_of_tag found]⟩
        exact .escaped escaped (Nat.mul_add_mod 2 tag.slashes 1) (ih shorter)
      | none =>
        have noTag := tag?_escapeFrom enough ends found
        rw [escapeFrom_of_no_tag found, List.cons_append] at noTag ⊢
        exact .plain noTag (ih (Nat.le_of_succ_le_succ enough))

end

/-- A text whose tags have been made plain is always shown. -/
theorem sound_escape (text : String) : Sound looks (escape text).toList := by
  have enough := Nat.le_refl text.toList.length
  have whole : Sound looks (escapeFrom text.toList.length text.toList) := by
    simpa using sound_escapeFrom enough (.inl rfl)
  rw [escape, String.toList_ofList]
  split
  · exact whole
  · exact sound_escapeFrom enough (.inr rfl)
  · exact whole

end

/-! ## The laws -/

theorem isLook_of_isLookName {look : String} (isName : isLookName look = true) : IsLook look.toList := by
  obtain ⟨starts, letters⟩ : look.toList.head?.any isSmallLetter = true ∧
      look.toList.all (fun c => isSmallLetter c || c = ' ') = true := by
    rwa [isLookName, Bool.and_eq_true] at isName
  obtain ⟨first, rest, characters⟩ : ∃ first rest, look.toList = first :: rest := by
    cases characters : look.toList with
    | nil => simp [characters] at starts
    | cons first rest => exact ⟨first, rest, rfl⟩
  have small : isSmallLetter first = true := by simpa [characters] using starts
  refine ⟨?_, List.all_eq_true.mpr fun c member => ?_, ?_⟩
  · have letter : 'a' ≤ first ∧ first ≤ 'z' := by simpa [isSmallLetter] using small
    simp [characters, opensTag, letter]
  · have among : isSmallLetter c = true ∨ c = ' ' := by simpa using List.all_eq_true.mp letters c member
    have other (d : Char) (notSmall : isSmallLetter d = false) (notBlank : d ≠ ' ') : c ≠ d := by
      rintro rfl
      exact among.elim (by simp [notSmall]) notBlank
    simp [other ']' rfl (by decide), other '[' rfl (by decide), other '=' rfl (by decide),
      other '/' rfl (by decide)]
  · have notBlank : first.isWhitespace = false := by
      refine Bool.eq_false_iff.mpr fun blank => ?_
      have among : ((first = ' ' ∨ first = '\t') ∨ first = '\r') ∨ first = '\n' := by
        simpa [Char.isWhitespace] using blank
      rcases among with ((rfl | rfl) | rfl) | rfl <;> cases small
    simp [trim, characters, notBlank]

/-- A closing tag in front of a text closes nothing. -/
theorem not_sound_stray {name rest : List Char} (isName : '[' ∉ name ∧ ']' ∉ name) :
    ¬ Sound [] ('[' :: ('/' :: name ++ ']' :: rest)) := by
  have isBody : IsBody ('/' :: name) := by
    refine ⟨'/', name, rfl, by decide, fun d member => ⟨?_, ?_⟩⟩
    · rintro rfl
      exact isName.2 member
    · rintro rfl
      exact isName.1 member
  have found : tag? ('[' :: ('/' :: name ++ ']' :: rest)) = some ⟨0, '/' :: name, rest⟩ :=
    tag?_eq_some_iff.mpr ⟨isBody, rfl⟩
  rw [sound_tagged_iff found Nat.zero_ne_one]
  rintro ⟨further, closes, -⟩
  have named : tagName ('/' :: name) = '/' :: tagName name := by simp [tagName]
  simp only [afterTag, named] at closes
  split at closes <;> simp at closes

theorem console_isLawful : console.IsLawful where
  accepts text := ⟨text, rfl⟩
  untagged plain := canShow_of_no_bracket plain
  behind_words := by
    intro words text plain
    show CanShow (words ++ text) ↔ CanShow text
    rw [canShow_iff, canShow_iff, String.toList_append]
    exact sound_append_iff plain
  behind_title := by
    intro look title text isName plain
    show CanShow (styled look title ++ text) ↔ CanShow text
    have parts : (styled look title ++ text).toList = '[' :: (look.toList ++ ']' ::
        (title.toList ++ '[' :: ('/' :: look.toList ++ ']' :: text.toList))) := by simp [styled]
    rw [canShow_iff, canShow_iff, parts, sound_styled_iff (isLook_of_isLookName isName) plain]
  escaped text := canShow_iff.mpr (sound_escape text)
  stray := by
    intro words name rest plain isName
    show ¬ CanShow (words ++ "[/" ++ name ++ "]" ++ rest)
    have parts : (words ++ "[/" ++ name ++ "]" ++ rest).toList =
        words.toList ++ '[' :: ('/' :: name.toList ++ ']' :: rest.toList) := by simp
    rw [canShow_iff, parts, sound_append_iff plain]
    exact not_sound_stray isName

end TestFlow.CommandLine.Markup

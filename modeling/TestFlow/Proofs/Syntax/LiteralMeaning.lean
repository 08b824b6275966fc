import TestFlow.Source.Character
import TestFlow.Syntax.Literal

/-! # What string literals stand for

The language gives a string literal a string of UTF-16 code units. The text that is read off the literal is that
string as long as all of its escapes are decoded. An escape that keeps its source form reads like an escaped
backslash with plain characters behind it, so that one text can come from literals of different strings.
-/

namespace TestFlow.Syntax

open Source

/-! ## The strings of the language -/

/-- The code units of a code point; a surrogate is a unit of its own. -/
def codeUnits (point : Nat) : List Nat :=
  if point < 0x10000 then [point]
  else [0xD800 + (point - 0x10000) / 0x400, 0xDC00 + (point - 0x10000) % 0x400]

/-- The code units of a text. -/
def unitsOf (text : List Char) : List Nat :=
  text.flatMap fun c => codeUnits c.toNat

def digitValue (c : Char) : Nat :=
  if c.isDigit then c.toNat - '0'.toNat
  else if 'a' ≤ c then c.toNat - 'a'.toNat + 10 else c.toNat - 'A'.toNat + 10

/-- The number that digits of a base write. -/
def numberOf (base : Nat) (digits : List Char) : Nat :=
  digits.foldl (fun number c => base * number + digitValue c) 0

/-- Characters that stand for a control character behind a backslash. -/
def controlEscapes : List (Char × Nat) :=
  [('b', 8), ('t', 9), ('n', 10), ('v', 11), ('f', 12), ('r', 13)]

/-- An octal number at the front of a text, up to 377, and the text behind it. -/
def octalMeaning (text : List Char) : List Nat × List Char :=
  let digits := (text.takeWhile isOctalDigit).take (if text.head?.any (· ≤ '3') then 3 else 2)
  ([numberOf 8 digits], text.drop digits.length)

/-- A hexadecimal number of as many digits at the front of a text, and the text behind it. -/
def hexMeaning? (count : Nat) (text : List Char) : Option (List Nat × List Char) :=
  if (text.take count).length = count ∧ (text.take count).all isHexDigit then
    some ([numberOf 16 (text.take count)], text.drop count)
  else none

/-- A hexadecimal number in braces at the front of a text, if it is a code point, and the text behind it. -/
def pointMeaning? (text : List Char) : Option (List Nat × List Char) :=
  let digits := (text.drop 1).takeWhile isHexDigit
  let rest := text.drop (1 + digits.length)
  if digits ≠ [] ∧ rest.head? = some '}' ∧ numberOf 16 digits ≤ 0x10FFFF then
    some (codeUnits (numberOf 16 digits), rest.drop 1)
  else none

/-- What an escape stands for, by the characters behind its backslash, and the characters left. Templates have no
octal escapes. -/
def escapeMeaning? (isTemplate : Bool) : List Char → Option (List Nat × List Char)
  | [] => none
  | c :: rest =>
    if isOctalDigit c then
      if isTemplate then
        if c = '0' ∧ ¬ rest.head?.any Char.isDigit then some ([0], rest) else none
      else some (octalMeaning (c :: rest))
    else if c = 'x' then hexMeaning? 2 rest
    else if c = 'u' then
      if rest.head? = some '{' then pointMeaning? rest else hexMeaning? 4 rest
    else if endsComment c then
      some ([], if c = '\r' ∧ rest.head? = some '\n' then rest.drop 1 else rest)
    else if isTemplate ∧ c.isDigit then none
    else
      match controlEscapes.lookup c with
      | some unit => some ([unit], rest)
      | none => some (codeUnits c.toNat, rest)

/-- The string that the source between the quotes of a literal stands for. In a template, a carriage return is a line
feed, or goes with the one behind it. -/
inductive Means (isTemplate : Bool) : List Char → List Nat → Prop where
  | nil : Means isTemplate [] []
  | plain {c : Char} {rest : List Char} {units : List Nat} (notSlash : c ≠ '\\')
      (unchanged : c = '\r' → isTemplate = false) (later : Means isTemplate rest units) :
      Means isTemplate (c :: rest) (codeUnits c.toNat ++ units)
  | carriageReturn {rest : List Char} {units : List Nat} (template : isTemplate = true)
      (alone : rest.head? ≠ some '\n') (later : Means isTemplate rest units) :
      Means isTemplate ('\r' :: rest) (10 :: units)
  | lineFeedBehind {rest : List Char} {units : List Nat} (template : isTemplate = true)
      (paired : rest.head? = some '\n') (later : Means isTemplate rest units) :
      Means isTemplate ('\r' :: rest) units
  | escape {text rest : List Char} {meant units : List Nat}
      (escaped : escapeMeaning? isTemplate text = some (meant, rest)) (later : Means isTemplate rest units) :
      Means isTemplate ('\\' :: text) (meant ++ units)

/-! ## Literals as they are parsed -/

/-- Whether a text is an escape token in front of the rest of a literal: octal digits, as many as there are up to
three, announced hexadecimal digits, a pair of line ends, or any other character. -/
inductive EscapeToken : List Char → List Char → Prop where
  | octal {digits rest : List Char} (nonempty : digits ≠ []) (few : digits.length ≤ 3)
      (octal : ∀ c ∈ digits, isOctalDigit c = true)
      (ends : digits.length = 3 ∨ rest.head?.any isOctalDigit = false) : EscapeToken ('\\' :: digits) rest
  | hex {digits rest : List Char} (two : digits.length = 2) (hex : ∀ c ∈ digits, isHexDigit c = true) :
      EscapeToken ('\\' :: 'x' :: digits) rest
  | unicode {digits rest : List Char} (four : digits.length = 4) (hex : ∀ c ∈ digits, isHexDigit c = true) :
      EscapeToken ('\\' :: 'u' :: digits) rest
  | codePoint {digits rest : List Char} (nonempty : digits ≠ []) (hex : ∀ c ∈ digits, isHexDigit c = true) :
      EscapeToken ('\\' :: 'u' :: '{' :: (digits ++ ['}'])) rest
  | lineEnds {rest : List Char} : EscapeToken ['\\', '\r', '\n'] rest
  | other {c : Char} {rest : List Char} (notOctal : isOctalDigit c = false) (unannounced : c ≠ 'x' ∧ c ≠ 'u')
      (alone : c = '\r' → rest.head? ≠ some '\n') : EscapeToken ['\\', c] rest

/-- The source of parts of a literal. -/
def sourceOf (parts : List Node) : List Char :=
  parts.flatMap (·.text.toList)

/-- Whether parts are what the source of a literal without substitutions is cut into: fragments without a backslash,
and escapes. -/
inductive IsCut : List Node → Prop where
  | nil : IsCut []
  | fragment {part : Node} {rest : List Node} (notEscape : part.kind ≠ .escapeSequence)
      (unsubstituted : part.kind ≠ .templateSubstitution) (plain : '\\' ∉ part.text.toList) (later : IsCut rest) :
      IsCut (part :: rest)
  | escape {part : Node} {rest : List Node} (isEscape : part.kind = .escapeSequence)
      (token : EscapeToken part.text.toList (sourceOf rest)) (later : IsCut rest) : IsCut (part :: rest)

namespace Node

/-- Whether a node is a string literal, or a template without substitutions, with its parts. -/
structure IsLiteral (node : Node) : Prop where
  literal : node.isStringLike = true
  cut : IsCut node.namedChildren

/-- Whether a literal stands for a string of code units. -/
def Denotes (node : Node) (units : List Nat) : Prop :=
  Means (node.kind = .templateString) (sourceOf node.namedChildren) units

/-- Whether a part of a literal is read as what it stands for: no escape in its source form, and no carriage return
in a template. -/
def IsReadThrough (isTemplate : Bool) (part : Node) : Prop :=
  if part.kind = .escapeSequence then decodeEscape part.text ≠ part.text
  else isTemplate = true → '\r' ∉ part.text.toList

/-- Whether no part of a literal keeps its source form. -/
def IsDecoded (node : Node) : Prop :=
  ∀ part ∈ node.namedChildren, part.IsReadThrough (node.kind = .templateString)

end Node

/-! ## Meaning against text -/

/-- A measure of strings. Carriage returns count more than other units, for a template makes line feeds of them. -/
def weight (units : List Nat) : Nat :=
  2 * units.length + units.count 13

/-- What a literal stands for against the text that is read off it: the same if it is read through, and less
if not. -/
inductive Compares (isReadThrough : Prop) (units whole : List Nat) : Prop where
  | same (readThrough : isReadThrough) (equal : units = whole)
  | less (kept : ¬ isReadThrough) (lighter : weight units < weight whole)

section

variable {isTemplate : Bool} {text rest fragment : List Char} {units others : List Nat}

@[simp] theorem unitsOf_cons (c : Char) (text : List Char) : unitsOf (c :: text) = codeUnits c.toNat ++ unitsOf text :=
  rfl

@[simp] theorem unitsOf_append (text rest : List Char) : unitsOf (text ++ rest) = unitsOf text ++ unitsOf rest :=
  List.flatMap_append

@[simp] theorem weight_append (units others : List Nat) : weight (units ++ others) = weight units + weight others := by
  simp only [weight, List.length_append, List.count_append]
  omega

theorem weight_le (units : List Nat) : weight units ≤ 3 * units.length := by
  have := List.count_le_length (a := 13) (l := units)
  simp only [weight]
  omega

theorem length_codeUnits (point : Nat) : 1 ≤ (codeUnits point).length ∧ (codeUnits point).length ≤ 2 := by
  unfold codeUnits
  split <;> simp

theorem le_weight_unitsOf (text : List Char) : 2 * text.length ≤ weight (unitsOf text) := by
  induction text with
  | nil => simp
  | cons c rest ih =>
    have := (length_codeUnits c.toNat).1
    simp only [unitsOf_cons, weight_append, List.length_cons]
    simp only [weight] at ih ⊢
    omega

theorem weight_carriageReturn : weight (codeUnits '\r'.toNat) = 3 := by
  decide

theorem Compares.weight_le {isReadThrough : Prop} {whole : List Nat} (came : Compares isReadThrough units whole) :
    weight units ≤ weight whole := by
  cases came with
  | same _ equal => exact Nat.le_of_eq (congrArg weight equal)
  | less _ lighter => exact Nat.le_of_lt lighter

/-! ### Fragments -/

theorem means_escape_iff : Means isTemplate ('\\' :: text) units ↔
    ∃ meant rest others, escapeMeaning? isTemplate text = some (meant, rest) ∧ Means isTemplate rest others ∧
      units = meant ++ others := by
  constructor
  · intro means
    cases means with
    | plain notSlash => exact absurd rfl notSlash
    | escape escaped later => exact ⟨_, _, _, escaped, later, rfl⟩
  · rintro ⟨meant, rest, others, escaped, later, rfl⟩
    exact .escape escaped later

/-- A fragment stands for its own text, unless it holds a carriage return that a template changes. -/
theorem means_fragment (plain : '\\' ∉ fragment) (means : Means isTemplate (fragment ++ rest) units) :
    ∃ others, Means isTemplate rest others ∧
      Compares (isTemplate = true → '\r' ∉ fragment) units (unitsOf fragment ++ others) := by
  induction fragment generalizing units with
  | nil => exact ⟨units, means, .same (fun _ => List.not_mem_nil) rfl⟩
  | cons c fragment ih =>
    have plainTail : '\\' ∉ fragment := mt (List.mem_cons_of_mem c) plain
    have changed : isTemplate = true → ¬ (isTemplate = true → '\r' ∉ '\r' :: fragment) :=
      fun template unchanged => unchanged template List.mem_cons_self
    rw [List.cons_append] at means
    cases means with
    | @plain _ _ units _ unchanged later =>
      obtain ⟨others, after, came⟩ := ih plainTail later
      refine ⟨others, after, ?_⟩
      rw [unitsOf_cons, List.append_assoc]
      cases came with
      | same readThrough equal =>
        refine .same (fun template => ?_) (by rw [equal])
        rw [List.mem_cons, not_or]
        exact ⟨fun same => absurd (unchanged same.symm) (by simp [template]), readThrough template⟩
      | less kept lighter =>
        refine .less (fun readThrough => kept fun template => ?_) (by simpa using lighter)
        exact mt (List.mem_cons_of_mem c) (readThrough template)
    | @carriageReturn _ units template _ later =>
      obtain ⟨others, after, came⟩ := ih plainTail later
      have bound := came.weight_le
      have lineFeed : weight (10 :: units) = 2 + weight units := weight_append [10] units
      refine ⟨others, after, .less (changed template) ?_⟩
      rw [lineFeed, unitsOf_cons, List.append_assoc, weight_append, weight_carriageReturn]
      omega
    | lineFeedBehind template _ later =>
      obtain ⟨others, after, came⟩ := ih plainTail later
      have bound := came.weight_le
      refine ⟨others, after, .less (changed template) ?_⟩
      rw [unitsOf_cons, List.append_assoc, weight_append, weight_carriageReturn]
      omega
    | escape => exact absurd List.mem_cons_self plain

/-! ### Escapes -/

theorem takeWhile_octal_eq_nil (ends : rest.head?.any isOctalDigit = false) : rest.takeWhile isOctalDigit = [] := by
  cases rest with
  | nil => rfl
  | cons c rest => exact List.takeWhile_cons_of_neg (by simpa using ends)

theorem octalMeaning_eq {digits : List Char} (nonempty : digits ≠ []) (few : digits.length ≤ 3)
    (octal : ∀ c ∈ digits, isOctalDigit c = true)
    (ends : digits.length = 3 ∨ rest.head?.any isOctalDigit = false) :
    ∃ number count, 0 < count ∧ count ≤ digits.length ∧
      octalMeaning (digits ++ rest) = ([number], digits.drop count ++ rest) := by
  obtain ⟨bound, positive, small, bound_eq⟩ : ∃ bound, 0 < bound ∧ bound ≤ 3 ∧
      (if (digits ++ rest).head?.any (· ≤ '3') then 3 else 2) = bound := by
    split <;> simp
  have taken : ((digits ++ rest).takeWhile isOctalDigit).take bound = digits.take bound := by
    rw [List.takeWhile_append_of_pos octal]
    rcases ends with three | ends
    · exact List.take_append_of_le_length (by omega)
    · rw [takeWhile_octal_eq_nil ends, List.append_nil]
  refine ⟨numberOf 8 (digits.take bound), (digits.take bound).length, ?_, ?_, ?_⟩
  · rw [List.length_take]
    have := List.length_pos_iff.mpr nonempty
    omega
  · exact List.length_take_le' _ _
  · simp only [octalMeaning, bound_eq, taken]
    rw [List.drop_append_of_le_length (List.length_take_le' _ _)]

theorem escapeMeaning?_octal {digits behind : List Char} {meant : List Nat} (nonempty : digits ≠ [])
    (few : digits.length ≤ 3) (octal : ∀ c ∈ digits, isOctalDigit c = true)
    (ends : digits.length = 3 ∨ rest.head?.any isOctalDigit = false)
    (meaning : escapeMeaning? isTemplate (digits ++ rest) = some (meant, behind)) :
    ∃ number count, 0 < count ∧ count ≤ digits.length ∧ meant = [number] ∧ behind = digits.drop count ++ rest := by
  obtain ⟨d, ds, rfl⟩ := List.exists_cons_of_ne_nil nonempty
  rw [List.cons_append, escapeMeaning?, if_pos (octal d List.mem_cons_self)] at meaning
  cases isTemplate with
  | true =>
    rw [if_pos rfl] at meaning
    split at meaning
    · cases meaning
      exact ⟨0, 1, Nat.one_pos, by simp, rfl, rfl⟩
    · cases meaning
  | false =>
    obtain ⟨number, count, positive, within, came⟩ := octalMeaning_eq nonempty few octal ends
    rw [if_neg Bool.false_ne_true, ← List.cons_append, came] at meaning
    cases meaning
    exact ⟨number, count, positive, within, rfl, rfl⟩

theorem hexMeaning?_eq {digits : List Char} {count : Nat} (length : digits.length = count)
    (hex : ∀ c ∈ digits, isHexDigit c = true) :
    hexMeaning? count (digits ++ rest) = some ([numberOf 16 digits], rest) := by
  have all : digits.all isHexDigit = true := List.all_eq_true.mpr hex
  simp only [hexMeaning?, List.take_left' length, List.drop_left' length, length, all, and_self, if_true]

theorem pointMeaning?_eq {digits behind : List Char} {meant : List Nat} (hex : ∀ c ∈ digits, isHexDigit c = true)
    (meaning : pointMeaning? ('{' :: (digits ++ '}' :: rest)) = some (meant, behind)) :
    behind = rest ∧ meant.length ≤ 2 := by
  have cut : (digits ++ '}' :: rest).takeWhile isHexDigit = digits := by
    rw [List.takeWhile_append_of_pos hex, List.takeWhile_cons_of_neg (by decide), List.append_nil]
  simp only [pointMeaning?, List.drop_succ_cons, List.drop_zero, cut, Nat.add_comm 1, List.drop_left',
    Option.ite_none_right_eq_some, Option.some.injEq, Prod.mk.injEq] at meaning
  obtain ⟨-, rfl, rfl⟩ := meaning
  exact ⟨rfl, (length_codeUnits _).2⟩

theorem escapeMeaning?_x (text : List Char) : escapeMeaning? isTemplate ('x' :: text) = hexMeaning? 2 text :=
  rfl

theorem escapeMeaning?_u (text : List Char) : escapeMeaning? isTemplate ('u' :: text) =
    if text.head? = some '{' then pointMeaning? text else hexMeaning? 4 text :=
  rfl

theorem escapeMeaning?_lineEnds (text : List Char) :
    escapeMeaning? isTemplate ('\r' :: '\n' :: text) = some ([], text) :=
  rfl

theorem escapeMeaning?_other {c : Char} {behind : List Char} {meant : List Nat} (notOctal : isOctalDigit c = false)
    (unannounced : c ≠ 'x' ∧ c ≠ 'u') (alone : c = '\r' → rest.head? ≠ some '\n')
    (meaning : escapeMeaning? isTemplate (c :: rest) = some (meant, behind)) :
    behind = rest ∧ (meant.length ≤ 1 ∨ meant = codeUnits c.toNat) := by
  have single : ¬ (c = '\r' ∧ rest.head? = some '\n') := fun ⟨isReturn, paired⟩ => alone isReturn paired
  rw [escapeMeaning?, if_neg (by simp [notOctal]), if_neg unannounced.1, if_neg unannounced.2] at meaning
  split at meaning
  · cases meaning
    exact ⟨rfl, .inl (Nat.zero_le _)⟩
  · split at meaning
    · cases meaning
    · split at meaning
      · cases meaning
        exact ⟨rfl, .inl (Nat.le_refl _)⟩
      · cases meaning
        exact ⟨rfl, .inr rfl⟩

theorem lighter_of_short {token : List Char} (short : 3 * units.length < 2 * token.length) :
    weight (units ++ unitsOf []) < weight (unitsOf token) := by
  have light := weight_le units
  have heavy := le_weight_unitsOf token
  simp only [unitsOf, List.flatMap_nil, List.append_nil]
  exact Nat.lt_of_le_of_lt light (Nat.lt_of_lt_of_le short heavy)

/-- An escape stands for less than its source form; octal digits it leaves stand for themselves. -/
theorem EscapeToken.meaning_lighter {body behind : List Char} {meant : List Nat}
    (isToken : EscapeToken ('\\' :: body) rest)
    (meaning : escapeMeaning? isTemplate (body ++ rest) = some (meant, behind)) :
    ∃ left, '\\' ∉ left ∧ behind = left ++ rest ∧
      weight (meant ++ unitsOf left) < weight (unitsOf ('\\' :: body)) := by
  cases isToken with
  | octal nonempty few octal ends =>
    have plain : '\\' ∉ body := fun member => absurd (octal _ member) (by decide)
    obtain ⟨number, count, positive, within, rfl, rfl⟩ := escapeMeaning?_octal nonempty few octal ends meaning
    refine ⟨body.drop count, fun member => plain (List.mem_of_mem_drop member), rfl, ?_⟩
    have light := weight_le [number]
    have heavy := le_weight_unitsOf ('\\' :: body.take count)
    have parts : unitsOf ('\\' :: body) = unitsOf ('\\' :: body.take count) ++ unitsOf (body.drop count) := by
      rw [← unitsOf_append, List.cons_append, List.take_append_drop]
    rw [parts, weight_append, weight_append]
    simp only [List.length_cons, List.length_nil, List.length_take, Nat.min_eq_left within] at light heavy
    omega
  | @hex digits _ two hex =>
    rw [List.cons_append, escapeMeaning?_x, hexMeaning?_eq two hex] at meaning
    cases meaning
    exact ⟨[], List.not_mem_nil, rfl, lighter_of_short (by simp [two])⟩
  | @unicode digits _ four hex =>
    have unbraced : (digits ++ rest).head? ≠ some '{' := by
      cases digits with
      | nil => cases four
      | cons c digits =>
        rintro ⟨rfl⟩
        exact absurd (hex '{' List.mem_cons_self) (by decide)
    rw [List.cons_append, escapeMeaning?_u, if_neg unbraced, hexMeaning?_eq four hex] at meaning
    cases meaning
    exact ⟨[], List.not_mem_nil, rfl, lighter_of_short (by simp [four])⟩
  | @codePoint digits _ nonempty hex =>
    have text : 'u' :: '{' :: (digits ++ ['}']) ++ rest = 'u' :: '{' :: (digits ++ '}' :: rest) := by simp
    have braced : ('{' :: (digits ++ '}' :: rest)).head? = some '{' := rfl
    rw [text, escapeMeaning?_u, if_pos braced] at meaning
    obtain ⟨rfl, short⟩ := pointMeaning?_eq hex meaning
    refine ⟨[], List.not_mem_nil, rfl, lighter_of_short ?_⟩
    simp only [List.length_cons, List.length_append]
    omega
  | lineEnds =>
    cases (escapeMeaning?_lineEnds rest).symm.trans meaning
    exact ⟨[], List.not_mem_nil, rfl, lighter_of_short (by simp)⟩
  | @other c _ notOctal unannounced alone =>
    obtain ⟨rfl, short | same⟩ := escapeMeaning?_other notOctal unannounced alone meaning
    · refine ⟨[], List.not_mem_nil, rfl, lighter_of_short ?_⟩
      simp only [List.length_cons, List.length_nil]
      omega
    · have slash : 2 ≤ weight (unitsOf ['\\']) := le_weight_unitsOf ['\\']
      have source : unitsOf ['\\', c] = unitsOf ['\\'] ++ codeUnits c.toNat := by simp [unitsOf]
      have whole : codeUnits c.toNat ++ unitsOf [] = codeUnits c.toNat := by simp [unitsOf]
      refine ⟨[], List.not_mem_nil, rfl, ?_⟩
      rw [same, whole, source, weight_append]
      omega

theorem EscapeToken.exists_body {token : List Char} (isToken : EscapeToken token rest) :
    ∃ body, token = '\\' :: body := by
  cases isToken <;> exact ⟨_, rfl⟩

theorem EscapeToken.lighter {token : List Char} (isToken : EscapeToken token rest)
    (means : Means isTemplate (token ++ rest) units) :
    ∃ others, Means isTemplate rest others ∧ weight units < weight (unitsOf token ++ others) := by
  obtain ⟨body, rfl⟩ := isToken.exists_body
  obtain ⟨meant, behind, later, meaning, after, rfl⟩ := means_escape_iff.mp means
  obtain ⟨left, plain, rfl, lighter⟩ := isToken.meaning_lighter meaning
  obtain ⟨others, means, came⟩ := means_fragment plain after
  have bound := came.weight_le
  refine ⟨others, means, ?_⟩
  rw [weight_append] at lighter bound ⊢
  rw [weight_append]
  omega

/-- The escapes that are decoded. -/
theorem decodeEscape_cases {source : String} (decoded : Node.decodeEscape source ≠ source) :
    source ∈ ["\\n", "\\t", "\\r", "\\0", "\\'", "\\\"", "\\`", "\\\\"] := by
  unfold Node.decodeEscape at decoded
  split at decoded <;> first | exact absurd rfl decoded | simp

theorem means_single {c : Char} {meant : List Nat}
    (meaning : ∀ isTemplate rest, escapeMeaning? isTemplate (c :: rest) = some (meant, rest))
    (means : Means isTemplate ('\\' :: c :: rest) units) :
    ∃ others, Means isTemplate rest others ∧ units = meant ++ others := by
  obtain ⟨_, _, others, came, later, rfl⟩ := means_escape_iff.mp means
  cases (meaning isTemplate rest).symm.trans came
  exact ⟨others, later, rfl⟩

theorem means_nul (isToken : EscapeToken ['\\', '0'] rest) (means : Means isTemplate ('\\' :: '0' :: rest) units) :
    ∃ others, Means isTemplate rest others ∧ units = 0 :: others := by
  have ends : rest.head?.any isOctalDigit = false := by
    cases isToken with
    | octal _ _ _ ends => exact ends.resolve_left (by decide)
    | other notOctal => exact absurd notOctal (by decide)
  obtain ⟨meant, behind, others, came, later, rfl⟩ := means_escape_iff.mp means
  rw [escapeMeaning?, if_pos (by decide)] at came
  cases isTemplate with
  | true =>
    rw [if_pos rfl] at came
    split at came
    · cases came
      exact ⟨others, later, rfl⟩
    · cases came
  | false =>
    have nul : octalMeaning ('0' :: rest) = ([0], rest) := by
      rw [octalMeaning, List.takeWhile_cons_of_pos (by decide), takeWhile_octal_eq_nil ends]
      rfl
    rw [if_neg Bool.false_ne_true, nul] at came
    cases came
    exact ⟨others, later, rfl⟩

/-- An escape that is decoded stands for its character. -/
theorem EscapeToken.decoded {source : String} (isToken : EscapeToken source.toList rest)
    (decoded : Node.decodeEscape source ≠ source) (means : Means isTemplate (source.toList ++ rest) units) :
    ∃ others, Means isTemplate rest others ∧ units = unitsOf (Node.decodeEscape source).toList ++ others := by
  have known := decodeEscape_cases decoded
  simp only [List.mem_cons, List.not_mem_nil, or_false] at known
  rcases known with rfl | rfl | rfl | rfl | rfl | rfl | rfl | rfl
  case inr.inr.inr.inl => exact means_nul isToken means
  all_goals exact means_single (fun isTemplate rest => by cases isTemplate <;> rfl) means

/-! ### Literals -/

theorem means_part {part : Node} {parts : List Node} (cut : IsCut (part :: parts))
    (means : Means isTemplate (sourceOf (part :: parts)) units) :
    ∃ others, Means isTemplate (sourceOf parts) others ∧
      Compares (part.IsReadThrough isTemplate) units (unitsOf part.literalPart.toList ++ others) := by
  cases cut with
  | fragment notEscape _ plain _ =>
    simp only [Node.IsReadThrough, Node.literalPart, if_neg notEscape]
    exact means_fragment plain means
  | escape isEscape token _ =>
    simp only [Node.IsReadThrough, Node.literalPart, if_pos isEscape]
    by_cases kept : Node.decodeEscape part.text = part.text
    · obtain ⟨others, later, lighter⟩ := token.lighter means
      exact ⟨others, later, .less (fun decoded => decoded kept) (by rwa [kept])⟩
    · obtain ⟨others, later, same⟩ := token.decoded kept means
      exact ⟨others, later, .same kept same⟩

theorem means_parts {parts : List Node} (cut : IsCut parts) (means : Means isTemplate (sourceOf parts) units) :
    Compares (∀ part ∈ parts, part.IsReadThrough isTemplate) units
      (unitsOf (parts.flatMap (·.literalPart.toList))) := by
  induction parts generalizing units with
  | nil =>
    cases means
    exact .same (by simp) rfl
  | cons part parts ih =>
    have cutLater : IsCut parts := by
      cases cut with
      | fragment _ _ _ later => exact later
      | escape _ _ later => exact later
    obtain ⟨others, later, first⟩ := means_part cut means
    have rest := ih cutLater later
    rw [List.forall_mem_cons, List.flatMap_cons, unitsOf_append]
    cases first with
    | same readThrough equal =>
      cases rest with
      | same allThrough equalLater => exact .same ⟨readThrough, allThrough⟩ (by rw [equal, equalLater])
      | less kept lighter =>
        refine .less (fun all => kept all.2) ?_
        rw [equal, weight_append, weight_append]
        omega
    | less kept lighter =>
      have bound := rest.weight_le
      refine .less (fun all => kept all.1) ?_
      rw [weight_append] at lighter ⊢
      omega

theorem Node.toList_of_stringValue? {node : Node} {text : String} (found : node.stringValue? = some text) :
    text.toList = node.namedChildren.flatMap (·.literalPart.toList) := by
  simp only [Node.stringValue?, Option.ite_none_right_eq_some, Option.some.injEq] at found
  rw [← found.2, String.toList_join, List.flatMap_map]

/-- A literal stands for the text that is read off it exactly if all of its parts are decoded. -/
theorem Node.denotes_text_iff {node : Node} {text : String} (isLiteral : node.IsLiteral)
    (found : node.stringValue? = some text) (denotes : node.Denotes units) :
    units = unitsOf text.toList ↔ node.IsDecoded := by
  rw [Node.toList_of_stringValue? found]
  cases means_parts isLiteral.cut denotes with
  | same readThrough equal => exact ⟨fun _ => readThrough, fun _ => equal⟩
  | less kept lighter =>
    refine ⟨fun equal => ?_, fun readThrough => absurd readThrough kept⟩
    rw [← equal] at lighter
    exact absurd lighter (Nat.lt_irrefl _)

end

/-! ## Literals that spell a text -/

/-- The escape that a character needs within double quotes, if it needs one. -/
def neededEscape? : Char → Option String
  | '\\' => some "\\\\"
  | '"' => some "\\\""
  | '\n' => some "\\n"
  | '\r' => some "\\r"
  | _ => none

/-- The part of a literal that a character is spelled by. -/
def spelledPart (c : Char) : Node :=
  match neededEscape? c with
  | some source => .plain .escapeSequence source []
  | none => .plain (.other "string_fragment") (.ofList [c]) []

/-- The literal in double quotes that spells a text with no more escapes than it needs. -/
def spelled (text : String) : Node :=
  let parts := text.toList.map spelledPart
  .plain .string (.ofList ('"' :: (sourceOf parts ++ ['"']))) parts

section

variable {text : String} {c : Char} {rest : List Char} {parts : List Node} {units : List Nat}

theorem neededEscape?_cases (c : Char) :
    (c = '\\' ∨ c = '"' ∨ c = '\n' ∨ c = '\r') ∨ (c ≠ '\\' ∧ neededEscape? c = none) := by
  unfold neededEscape?
  split
  · simp
  · simp
  · simp
  · simp
  · rename_i notSlash _ _ _
    exact .inr ⟨notSlash, rfl⟩

theorem named_spelledPart (c : Char) : (spelledPart c).named = true := by
  unfold spelledPart
  split <;> rfl

theorem toList_literalPart_spelledPart (c : Char) : (spelledPart c).literalPart.toList = [c] := by
  rcases neededEscape?_cases c with (rfl | rfl | rfl | rfl) | ⟨-, plain⟩
  · rfl
  · rfl
  · rfl
  · rfl
  · simp [spelledPart, plain, Node.literalPart, Node.plain]

theorem kind_spelledPart (c : Char) : (spelledPart c).kind ≠ .templateSubstitution := by
  unfold spelledPart
  split <;> simp [Node.plain]

theorem isCut_spelledPart (later : IsCut parts) : IsCut (spelledPart c :: parts) := by
  have token {d : Char} (ordinary : isOctalDigit d = false ∧ (d ≠ 'x' ∧ d ≠ 'u') ∧ d ≠ '\r') :
      EscapeToken ['\\', d] (sourceOf parts) :=
    .other ordinary.1 ordinary.2.1 fun isReturn => absurd isReturn ordinary.2.2
  rcases neededEscape?_cases c with (rfl | rfl | rfl | rfl) | ⟨notSlash, plain⟩
  · exact .escape rfl (token (by decide)) later
  · exact .escape rfl (token (by decide)) later
  · exact .escape rfl (token (by decide)) later
  · exact .escape rfl (token (by decide)) later
  · refine .fragment ?_ (kind_spelledPart c) ?_ later
    · simp [spelledPart, plain, Node.plain]
    · simpa [spelledPart, plain, Node.plain] using Ne.symm notSlash

theorem means_spelledPart (later : Means false (sourceOf parts) units) :
    Means false (sourceOf (spelledPart c :: parts)) (codeUnits c.toNat ++ units) := by
  rcases neededEscape?_cases c with (rfl | rfl | rfl | rfl) | ⟨notSlash, plain⟩
  · exact .escape rfl later
  · exact .escape rfl later
  · exact .escape rfl later
  · exact .escape rfl later
  · have source : sourceOf (spelledPart c :: parts) = c :: sourceOf parts := by
      simp [sourceOf, spelledPart, plain, Node.plain]
    rw [source]
    exact .plain notSlash (fun _ => rfl) later

theorem namedChildren_spelled : (spelled text).namedChildren = text.toList.map spelledPart :=
  List.filter_eq_self.mpr fun part member => by
    obtain ⟨c, -, rfl⟩ := List.mem_map.mp member
    exact named_spelledPart c

theorem isLiteral_spelled (text : String) : (spelled text).IsLiteral := by
  refine ⟨rfl, ?_⟩
  rw [namedChildren_spelled]
  induction text.toList with
  | nil => exact .nil
  | cons c rest ih => exact isCut_spelledPart ih

theorem stringValue?_spelled (text : String) : (spelled text).stringValue? = some text := by
  have whole : (spelled text).namedChildren.any (·.kind = .templateSubstitution) = false := by
    simp [namedChildren_spelled, kind_spelledPart]
  have isString : (spelled text).isStringLike = true := rfl
  rw [Node.stringValue?, whole, isString, namedChildren_spelled, List.map_map]
  simp only [Bool.not_false, Bool.and_self, if_true, Option.some.injEq]
  rw [← String.toList_inj, String.toList_join, List.flatMap_map]
  simp [toList_literalPart_spelledPart]

theorem denotes_spelled (text : String) : (spelled text).Denotes (unitsOf text.toList) := by
  rw [Node.Denotes, namedChildren_spelled]
  induction text.toList with
  | nil => exact .nil
  | cons c rest ih => exact means_spelledPart ih

end

/-- When all literals of one text stand for one string: exactly if none of them keeps a part in its source form. They
then stand for the text itself. -/
theorem same_text_same_string_iff (text : String) :
    (∀ (one other : Node) (units others : List Nat), one.IsLiteral → other.IsLiteral →
        one.stringValue? = some text → other.stringValue? = some text →
        one.Denotes units → other.Denotes others → units = others) ↔
      ∀ (node : Node) (units : List Nat), node.IsLiteral → node.stringValue? = some text → node.Denotes units →
        node.IsDecoded := by
  constructor
  · intro same node units isLiteral found denotes
    have equal := same node (spelled text) units _ isLiteral (isLiteral_spelled text) found
      (stringValue?_spelled text) denotes (denotes_spelled text)
    exact (Node.denotes_text_iff isLiteral found denotes).mp equal
  · intro decoded one other units others isLiteral isLiteralToo found foundToo denotes denotesToo
    rw [(Node.denotes_text_iff isLiteral found denotes).mpr (decoded one units isLiteral found denotes),
      (Node.denotes_text_iff isLiteralToo foundToo denotesToo).mpr
        (decoded other others isLiteralToo foundToo denotesToo)]

/-- The source `'\\x41'`: an escaped backslash, and characters that stand for themselves. -/
def escapedBackslash : Node :=
  .plain .string "'\\\\x41'" [.plain .escapeSequence "\\\\" [], .plain (.other "string_fragment") "x41" []]

/-- The source `'\x41'`: an escape for the letter A, which keeps its source form. -/
def keptEscape : Node :=
  .plain .string "'\\x41'" [.plain .escapeSequence "\\x41" []]

/-- One text is read off two literals of different strings. -/
theorem one_text_two_strings :
    escapedBackslash.IsLiteral ∧ keptEscape.IsLiteral ∧
      escapedBackslash.stringValue? = some "\\x41" ∧ keptEscape.stringValue? = some "\\x41" ∧
      escapedBackslash.Denotes [92, 120, 52, 49] ∧ keptEscape.Denotes [65] := by
  have slash : EscapeToken ['\\', '\\'] ['x', '4', '1'] :=
    .other (by decide) (by decide) fun isReturn => absurd isReturn (by decide)
  have letter : EscapeToken ['\\', 'x', '4', '1'] [] := .hex rfl (List.all_eq_true.mp (by decide))
  have fragment : IsCut [.plain (.other "string_fragment") "x41" []] := .fragment nofun nofun (by decide) .nil
  have characters : Means false ['x', '4', '1'] [120, 52, 49] :=
    .plain (by decide) nofun (.plain (by decide) nofun (.plain (by decide) nofun .nil))
  have slashMeaning : escapeMeaning? false ['\\', 'x', '4', '1'] = some ([92], ['x', '4', '1']) := rfl
  have letterMeaning : escapeMeaning? false ['x', '4', '1'] = some ([65], []) := rfl
  exact ⟨⟨rfl, .escape rfl slash fragment⟩, ⟨rfl, .escape rfl letter .nil⟩, by decide, by decide,
    .escape slashMeaning characters, .escape letterMeaning .nil⟩

end TestFlow.Syntax

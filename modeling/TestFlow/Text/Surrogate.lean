/-! # Lone surrogates

A text from outside can hold lone surrogates, which are no characters. A table gives each of them a character
that stands for it and that no text uses otherwise. UTF-8 has no bytes for a lone surrogate. In the name of a
file, though, some of them stand for a single byte that is no text.
-/

namespace TestFlow.Text

/-- Characters that stand for lone surrogates, with the code points that they stand for. -/
abbrev Surrogates :=
  List (Char × Nat)

/-- Why a text has no bytes: the first code point without any, its position, and the number of surrogates in a
row that starts there. -/
structure Unencodable where
  code : Nat
  position : Nat
  count : Nat
deriving DecidableEq, Repr, Inhabited

def Unencodable.message (trouble : Unencodable) : String :=
  let place :=
    if trouble.count ≤ 1 then
      "character '\\u" ++ .ofList (Nat.toDigits 16 trouble.code) ++ "' in position " ++ toString trouble.position
    else
      "characters in position " ++ toString trouble.position ++ "-" ++
        toString (trouble.position + trouble.count - 1)
  "'utf-8' codec can't encode " ++ place ++ ": surrogates not allowed"

namespace Surrogates

/-- Whether a character stands for a lone surrogate. -/
def holds (surrogates : Surrogates) (c : Char) : Bool :=
  (surrogates.lookup c).isSome

/-- Whether a character stands for a single byte in the name of a file. -/
def isByte (surrogates : Surrogates) (c : Char) : Bool :=
  (surrogates.lookup c).any fun code => 0xdc80 ≤ code && code ≤ 0xdcff

/-- Whether a character stands for a lone surrogate that has no byte even in the name of a file. -/
def isByteless (surrogates : Surrogates) (c : Char) : Bool :=
  surrogates.holds c && !surrogates.isByte c

/-- What there is to say about a text with characters that are refused. -/
def trouble (surrogates : Surrogates) (refused : Char → Bool) (text : String) : Unencodable :=
  let front := text.toList.takeWhile (!refused ·)
  let run := (text.toList.drop front.length).takeWhile surrogates.holds
  { code := (run.head?.bind fun c => surrogates.lookup c).getD 0, position := front.length, count := run.length }

/-- The bytes of a text in UTF-8, if it has any. -/
def encode (surrogates : Surrogates) (text : String) : Except Unencodable ByteArray :=
  if text.toList.any surrogates.holds then .error (surrogates.trouble surrogates.holds text)
  else .ok text.toUTF8

/-- The number of bytes of a name. -/
def nameSize (surrogates : Surrogates) (name : String) : Nat :=
  name.toList.foldr (fun c size => (if surrogates.isByte c then 1 else c.utf8Size) + size) 0

theorem encode_cases (surrogates : Surrogates) (text : String) :
    (surrogates.encode text = .ok text.toUTF8 ∧ ∀ c ∈ text.toList, surrogates.holds c = false) ∨
      (∃ trouble, surrogates.encode text = .error trouble) ∧ ∃ c ∈ text.toList, surrogates.holds c = true := by
  cases found : text.toList.any surrogates.holds with
  | true => exact .inr ⟨⟨_, by rw [encode, found, if_pos rfl]⟩, List.any_eq_true.mp found⟩
  | false => exact .inl ⟨by rw [encode, found]; rfl, fun c member => by simpa using List.any_eq_false.mp found c member⟩

end Surrogates

/-- A row of two, and the last of them stands for a byte. -/
example : (Surrogates.encode [('\ue000', 0xd800), ('\ue001', 0xdc80)] "a\ue000\ue001b").toOption = none ∧
    Unencodable.message (Surrogates.trouble [('\ue000', 0xd800), ('\ue001', 0xdc80)]
      (Surrogates.holds [('\ue000', 0xd800), ('\ue001', 0xdc80)]) "a\ue000\ue001b") =
      "'utf-8' codec can't encode characters in position 1-2: surrogates not allowed" := by
  decide +kernel

end TestFlow.Text

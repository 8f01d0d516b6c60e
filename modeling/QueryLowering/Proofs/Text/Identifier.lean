import Mathlib
import QueryLowering.Text.Identifier

/-!
# The language of identifiers

Identifiers are a regular language over characters. Membership in it is a
statement about whole texts: nothing may stand before or after what the
expression describes.
-/

namespace QueryLowering
namespace Text

open Computability

/-- The texts of one character that satisfies a condition. -/
def oneOf (accepts : Char → Prop) : Language Char :=
  {text | ∃ character, accepts character ∧ text = [character]}

/-- A letter of ASCII, or the underscore. -/
def IsLetter (character : Char) : Prop :=
  ('A' ≤ character ∧ character ≤ 'Z') ∨ ('a' ≤ character ∧ character ≤ 'z') ∨
    character = '_'

/-- A letter or a decimal digit. -/
def IsLetterOrDigit (character : Char) : Prop :=
  IsLetter character ∨ ('0' ≤ character ∧ character ≤ '9')

/-- A letter, and then letters and digits. -/
def words : Language Char := oneOf IsLetter * (oneOf IsLetterOrDigit)∗

/-- A word, optionally followed by a point and another word. -/
def identifiers : Language Char := words * (1 + oneOf (· = '.') * words)

/-- A text of any length is one of characters that all satisfy the condition. -/
theorem mem_kstar_oneOf_iff (accepts : Char → Prop) (text : List Char) :
    text ∈ (oneOf accepts)∗ ↔
      ∀ character, character ∈ text → accepts character := by
  rw [Language.mem_kstar]
  constructor
  · rintro ⟨parts, rfl, each⟩ character inParts
    obtain ⟨part, isPart, inPart⟩ := List.mem_flatten.1 inParts
    obtain ⟨only, accepted, rfl⟩ := each part isPart
    exact List.mem_singleton.1 inPart ▸ accepted
  · intro all
    refine ⟨text.map ([·]), by simp [← List.flatMap_def], ?_⟩
    rintro _ isPart
    obtain ⟨character, inText, rfl⟩ := List.mem_map.1 isPart
    exact ⟨character, all character inText, rfl⟩

theorem isWordStart_iff (character : Char) :
    isWordStart character = true ↔ IsLetter character := by
  simp only [isWordStart, Char.isAlpha, Char.isUpper, Char.isLower,
    Bool.or_eq_true, Bool.and_eq_true, decide_eq_true_eq, beq_iff_eq, or_assoc]
  rfl

theorem isWordPart_iff (character : Char) :
    isWordPart character = true ↔ IsLetterOrDigit character := by
  rw [IsLetterOrDigit, ← isWordStart_iff]
  simp only [isWordPart, isWordStart, Char.isAlphanum, Char.isDigit,
    Bool.or_eq_true, Bool.and_eq_true, decide_eq_true_eq, or_right_comm]
  rfl

theorem mem_words_iff (text : List Char) :
    text ∈ words ↔ isWord text = true := by
  rw [words, Language.mem_mul]
  constructor
  · rintro ⟨_, ⟨first, isLetter, rfl⟩, rest, allParts, rfl⟩
    have startsWord := (isWordStart_iff first).2 isLetter
    rw [mem_kstar_oneOf_iff] at allParts
    simpa [isWord, startsWord, isWordPart_iff] using allParts
  · intro isWordText
    cases text with
    | nil => simp [isWord] at isWordText
    | cons first rest =>
        obtain ⟨startsWord, allParts⟩ : isWordStart first = true ∧
            ∀ character, character ∈ rest → IsLetterOrDigit character := by
          simpa [isWord, isWordPart_iff] using isWordText
        exact ⟨[first], ⟨first, (isWordStart_iff first).1 startsWord, rfl⟩,
          rest, (mem_kstar_oneOf_iff _ rest).2 allParts, rfl⟩

/-- No word has a point. -/
theorem ne_point_of_isWord
    {text : List Char}
    (isWordText : isWord text = true) :
    ∀ character, character ∈ text → (character != '.') = true := by
  intro character inText
  cases text with
  | nil => cases inText
  | cons first rest =>
      obtain ⟨startsWord, allParts⟩ : isWordStart first = true ∧
          ∀ character, character ∈ rest → isWordPart character = true := by
        simpa [isWord] using isWordText
      rw [bne_iff_ne]
      rintro rfl
      rcases List.mem_cons.1 inText with rfl | inRest
      · cases startsWord
      · cases allParts '.' inRest

theorem mem_identifiers_iff (text : List Char) :
    text ∈ identifiers ↔ isIdentifier text = true := by
  rw [identifiers, Language.mem_mul]
  constructor
  · rintro ⟨first, firstIsWord, rest, isRest, rfl⟩
    have isWordFirst := (mem_words_iff first).1 firstIsWord
    have noPoint := ne_point_of_isWord isWordFirst
    rcases (Language.mem_add _ _ _).1 isRest with rfl | qualified
    · have nothingLeft : (first ++ []).dropWhile (· != '.') = [] :=
        List.dropWhile_append_of_pos noPoint
      rw [isIdentifier, nothingLeft]
      simpa using isWordFirst
    · obtain ⟨_, ⟨_, rfl, rfl⟩, second, secondIsWord, rfl⟩ :=
        Language.mem_mul.1 qualified
      have isWordSecond := (mem_words_iff second).1 secondIsWord
      simp [isIdentifier, List.dropWhile_append_of_pos noPoint,
        List.takeWhile_append_of_pos noPoint, isWordFirst, isWordSecond]
  · intro isIdentifierText
    have headIsPoint := List.head?_dropWhile_not (· != '.') text
    have parts := List.takeWhile_append_dropWhile (p := (· != '.')) (l := text)
    unfold isIdentifier at isIdentifierText
    cases remaining : text.dropWhile (· != '.') with
    | nil =>
        rw [remaining] at isIdentifierText
        exact ⟨text, (mem_words_iff text).2 isIdentifierText, [], .inl rfl,
          List.append_nil text⟩
    | cons point second =>
        obtain rfl : point = '.' := by simpa [remaining] using headIsPoint
        rw [remaining] at isIdentifierText parts
        obtain ⟨isWordFirst, isWordSecond⟩ :=
          Bool.and_eq_true_iff.1 isIdentifierText
        have isPoint : ['.'] ∈ oneOf (· = '.') := ⟨'.', rfl, rfl⟩
        refine ⟨_, (mem_words_iff _).2 isWordFirst, '.' :: second, .inr ?_,
          parts⟩
        exact Language.append_mem_mul isPoint ((mem_words_iff _).2 isWordSecond)

end Text
end QueryLowering

import Mathlib
import QueryLowering.Text.Casing

/-!
# Letter case of keywords

The case mapping of Unicode is described here as far as ASCII goes. Whatever
else it does, a text has an ASCII keyword for its lowercase form exactly when
`lowercase` gives that keyword.
-/

namespace QueryLowering
namespace Text

/-- Whether a character is one of ASCII. -/
def IsAscii (character : Char) : Prop := character.toNat < 128

instance (character : Char) : Decidable (IsAscii character) :=
  inferInstanceAs (Decidable (character.toNat < 128))

/-- What the case mapping of Unicode can make of a character. Outside ASCII a
form may be longer than one character and may depend on the neighbours, but it
has a part outside ASCII, except for that of the Kelvin sign. -/
inductive LowersTo : Char → List Char → Prop
  | ascii {character : Char} :
      IsAscii character →
      LowersTo character [character.toLower]
  | kelvin :
      LowersTo kelvinSign ['k']
  | other {character part : Char} {form : List Char} :
      ¬IsAscii character →
      character ≠ kelvinSign →
      part ∈ form →
      ¬IsAscii part →
      LowersTo character form

/-- The lowercase form of a text is that of its characters, one after the
other. -/
inductive IsLowercaseOf : (form text : List Char) → Prop
  | nil : IsLowercaseOf [] []
  | cons {character : Char} {first rest text : List Char} :
      LowersTo character first →
      IsLowercaseOf rest text →
      IsLowercaseOf (first ++ rest) (character :: text)

theorem toLower_of_not_isAscii {character : Char} (other : ¬IsAscii character) :
    character.toLower = character := by
  have notUpper : ¬(character.val ≥ 'A'.val ∧ character.val ≤ 'Z'.val) := by
    rintro ⟨_, atMost⟩
    have bound : character.toNat ≤ 90 := UInt32.le_iff_toNat_le.1 atMost
    exact other (lt_of_le_of_lt bound (by decide))
  rw [Char.toLower, dif_neg notUpper]

theorem lowersTo_lowercaseChar (character : Char) :
    LowersTo character [lowercaseChar character] := by
  by_cases isKelvin : character = kelvinSign
  · rw [isKelvin]
    exact .kelvin
  · rw [lowercaseChar, if_neg isKelvin]
    by_cases isAscii : IsAscii character
    · exact .ascii isAscii
    · rw [toLower_of_not_isAscii isAscii]
      exact .other isAscii isKelvin (List.mem_singleton_self character) isAscii

theorem isLowercaseOf_map (text : List Char) :
    IsLowercaseOf (text.map lowercaseChar) text := by
  induction text with
  | nil => exact .nil
  | cons character text inductionHypothesis =>
      exact .cons (lowersTo_lowercaseChar character) inductionHypothesis

/-- Within ASCII a text has one lowercase form. -/
theorem IsLowercaseOf.eq_map
    {form text : List Char}
    (isLowercase : IsLowercaseOf form text)
    (ascii : ∀ character, character ∈ form → IsAscii character) :
    text.map lowercaseChar = form := by
  induction isLowercase with
  | nil => rfl
  | cons lowers _ inductionHypothesis =>
      obtain ⟨firstAscii, restAscii⟩ := List.forall_mem_append.1 ascii
      rw [List.map_cons, inductionHypothesis restAscii]
      cases lowers with
      | ascii isAscii =>
          rw [lowercaseChar, if_neg]
          · rfl
          · rintro rfl
            exact absurd isAscii (by decide)
      | kelvin => rfl
      | other _ _ inForm outside => exact absurd (firstAscii _ inForm) outside

/-- A keyword of ASCII is the lowercase form of a text exactly when `lowercase`
gives it. -/
theorem isLowercaseOf_iff
    {keyword : String}
    (ascii : ∀ character, character ∈ keyword.toList → IsAscii character)
    (text : String) :
    IsLowercaseOf keyword.toList text.toList ↔ lowercase text = keyword := by
  rw [← String.toList_inj, lowercase, String.toList_map]
  constructor
  · intro isLowercase
    exact isLowercase.eq_map ascii
  · intro same
    rw [← same]
    exact isLowercaseOf_map text.toList

end Text
end QueryLowering

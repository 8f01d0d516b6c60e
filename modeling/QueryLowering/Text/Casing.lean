/-!
# Letter case

Keywords are compared without regard to letter case. `lowercase` agrees with
the full case mapping of Unicode wherever a comparison with an ASCII keyword can
tell: the Kelvin sign is the only character outside ASCII whose lowercase form
is ASCII, and every other such character keeps a form outside ASCII.
-/

namespace QueryLowering
namespace Text

/-- The Kelvin sign, whose lowercase form is the letter k. -/
def kelvinSign : Char := Char.ofNat 0x212A

/-- The lowercase form of a character, for comparison with ASCII keywords. -/
def lowercaseChar (character : Char) : Char :=
  if character = kelvinSign then 'k' else character.toLower

/-- The lowercase form of a text, for comparison with ASCII keywords. -/
def lowercase (text : String) : String := text.map lowercaseChar

/-- Whether two texts agree up to the case of ASCII letters. -/
def equalIgnoringAsciiCase (left right : String) : Bool :=
  left.map Char.toLower == right.map Char.toLower

end Text
end QueryLowering

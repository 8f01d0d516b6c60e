/-!
# SQL identifiers

A word starts with an ASCII letter or an underscore and goes on with these and
with digits. An identifier is one word, or two words joined by a point, the
first of which names a schema.
-/

namespace QueryLowering
namespace Text

/-- Whether a word can start with a character. -/
def isWordStart (character : Char) : Bool :=
  character.isAlpha || character == '_'

/-- Whether a word can go on with a character. -/
def isWordPart (character : Char) : Bool :=
  character.isAlphanum || character == '_'

/-- Whether a text is a word. -/
def isWord : List Char → Bool
  | [] => false
  | first :: rest => isWordStart first && rest.all isWordPart

/-- Whether a text is an identifier: a word, or two words around a point. -/
def isIdentifier (text : List Char) : Bool :=
  match text.dropWhile (· != '.') with
  | [] => isWord text
  | _ :: second => isWord (text.takeWhile (· != '.')) && isWord second

end Text
end QueryLowering

/-!
# Places in a document

A document is read character by character. A place has a line, a column counted
in characters, and an offset counted in bytes of UTF-8 from the start of its
line. Lines end at a line feed or at one of the two separators of Unicode; every
other break is written as a line feed before reading.
-/

namespace QueryLowering
namespace Yaml

/-- Whether a character is a blank inside a line. -/
def isBlank (character : Char) : Bool := character == ' ' || character == '\t'

/-- Whether a character ends a line. -/
def isBreak (character : Char) : Bool :=
  character == '\n' || character == '\u2028' || character == '\u2029'

/-- Whether a text starts with a blank or a line break, or is at its end. -/
def startsBlank : List Char → Bool
  | [] => true
  | first :: _ => isBlank first || isBreak first

/-- Whether a character can stand in a name. -/
def isNameCharacter (character : Char) : Bool :=
  character.isAlphanum || character == '_' || character == '-'

/-- Whether a character delimits collections that are written in brackets. -/
def isFlowIndicator (character : Char) : Bool :=
  character ∈ [',', '[', ']', '\x7b', '\x7d']

/-- Whether a character can stand in a document. -/
def isPrintable (character : Char) : Bool :=
  let code := character.toNat
  code == 0x09 || code == 0x0A || code == 0x0D ||
    (0x20 ≤ code && code ≤ 0x7E) || code == 0x85 ||
    (0xA0 ≤ code && code ≤ 0xD7FF) || (0xE000 ≤ code && code ≤ 0xFFFD) ||
    0x10000 ≤ code

/-- The same text with a line feed for each carriage return, for each carriage
return with its line feed, and for each next-line character. -/
def normalizeBreaks : List Char → List Char
  | [] => []
  | '\r' :: '\n' :: rest => '\n' :: normalizeBreaks rest
  | '\r' :: rest => '\n' :: normalizeBreaks rest
  | '\u0085' :: rest => '\n' :: normalizeBreaks rest
  | first :: rest => first :: normalizeBreaks rest

/-- A place in a text. -/
structure Position where
  line : Nat
  /-- The characters before it in its line. -/
  column : Nat
  /-- The bytes before it in its line. -/
  offset : Nat
  deriving DecidableEq

namespace Position

/-- The place of the first character. -/
def start : Position := ⟨0, 0, 0⟩

/-- The place behind a character that stands here. -/
def after (position : Position) (character : Char) : Position :=
  if isBreak character then ⟨position.line + 1, 0, 0⟩
  else
    ⟨position.line, position.column + 1, position.offset + character.utf8Size⟩

/-- The place behind several characters that stand here. -/
def afterAll (position : Position) (characters : List Char) : Position :=
  characters.foldl after position

end Position

/-- Whether a text starts with a marker of document bounds: three hyphens or
three dots that stand alone. A marker counts at the start of a line. -/
def startsMarker : List Char → Bool
  | '-' :: '-' :: '-' :: rest => startsBlank rest
  | '.' :: '.' :: '.' :: rest => startsBlank rest
  | _ => false

/-- A place in a text, and the text from there on. -/
structure Cursor where
  position : Position
  rest : List Char

namespace Cursor

/-- The character at a cursor. -/
def first? (cursor : Cursor) : Option Char := cursor.rest.head?

/-- Pass a number of characters. -/
def skip (cursor : Cursor) (count : Nat) : Cursor :=
  ⟨cursor.position.afterAll (cursor.rest.take count), cursor.rest.drop count⟩

/-- The characters that satisfy a condition, up to the first that does not, and
the place behind them. -/
def span (cursor : Cursor) (accepts : Char → Bool) : List Char × Cursor :=
  let passed := cursor.rest.takeWhile accepts
  (passed, ⟨cursor.position.afterAll passed, cursor.rest.dropWhile accepts⟩)

/-- Pass all characters up to the first that does not satisfy a condition. -/
def skipWhile (cursor : Cursor) (accepts : Char → Bool) : Cursor :=
  (cursor.span accepts).2

/-- Pass blanks, a comment and the line break behind them. There must be nothing
else up to the end of the line. -/
def endLine? (cursor : Cursor) : Option Cursor :=
  let cursor := cursor.skipWhile isBlank
  let cursor :=
    if cursor.first? = some '#' then cursor.skipWhile (!isBreak ·) else cursor
  match cursor.rest with
  | [] => some cursor
  | first :: _ => if isBreak first then some (cursor.skip 1) else none

end Cursor
end Yaml
end QueryLowering

import QueryLowering.Yaml.Scalar.Block
import QueryLowering.Yaml.Tag

/-!
# Tokens of documents

A text is cut into tokens in one pass from its start. Indentation becomes tokens
that start and end block collections. That something was a key shows only at the
colon behind it; its tokens are put in front of it then. A key must stand on one
line and start at most 1024 bytes before its colon.
-/

namespace QueryLowering
namespace Yaml

/-- A token of a document. -/
inductive Token
  | directive (content : Directive)
  | documentStart
  | documentEnd
  | blockSequenceStart
  | blockMappingStart
  | blockEnd
  | flowSequenceStart
  | flowSequenceEnd
  | flowMappingStart
  | flowMappingEnd
  /-- The dash before an item. -/
  | blockEntry
  /-- The comma between items. -/
  | flowEntry
  | key
  | value
  | reference (name : String)
  | anchor (name : String)
  | tag (handle : String) (suffix : List UInt8)
  | scalar (style : Style) (text : String)

/-- A place where a key may have started. -/
structure PossibleKey where
  /-- How many tokens stand before it. -/
  index : Nat
  position : Position
  /-- Whether it must be a key, since a mapping goes on there. -/
  isRequired : Bool

namespace PossibleKey

/-- Whether a colon at a place is too far away for a key. -/
def isStale (key : PossibleKey) (position : Position) : Bool :=
  key.position.line < position.line ||
    key.position.offset + 1024 < position.offset

end PossibleKey

/-- A text that is cut into tokens up to a place. -/
structure Lexer where
  cursor : Cursor
  /-- The tokens so far, the last first. -/
  reversed : List Token
  /-- The number of tokens so far. -/
  count : Nat
  /-- The columns of the open block collections, the innermost first. -/
  columns : List Nat
  /-- The possible key of the innermost collection in brackets, or of the
  block. -/
  key : Option PossibleKey
  /-- The possible keys around it, the innermost first; one for each bracket. -/
  outerKeys : List (Option PossibleKey)
  /-- Whether a key can start here. -/
  allowsKey : Bool

namespace Lexer

/-- The lexer at the start of a text. -/
def start (text : List Char) : Lexer where
  cursor := ⟨.start, text⟩
  reversed := []
  count := 0
  columns := []
  key := none
  outerKeys := []
  allowsKey := true

/-- Whether the lexer is inside brackets. -/
def inFlow (lexer : Lexer) : Bool := !lexer.outerKeys.isEmpty

/-- The column to which the lines of a scalar must be indented. -/
def minColumn (lexer : Lexer) : Nat :=
  match lexer.columns with
  | [] => 0
  | column :: _ => column + 1

/-- Add a token. -/
def emit (token : Token) (lexer : Lexer) : Lexer :=
  { lexer with reversed := token :: lexer.reversed, count := lexer.count + 1 }

/-- Put a token in front of all but a number of tokens. -/
def insert (index : Nat) (token : Token) (lexer : Lexer) : Lexer :=
  let (later, earlier) := lexer.reversed.splitAt (lexer.count - index)
  { lexer with reversed := later ++ token :: earlier, count := lexer.count + 1 }

/-- Add a token and pass the characters that it is made of. -/
def pass (token : Token) (length : Nat) (lexer : Lexer) : Lexer :=
  { lexer.emit token with cursor := lexer.cursor.skip length }

/-- Open a block collection at a column, unless one is open there or to its
right. Its start is put in front of all but a number of tokens. -/
def openBlock (column index : Nat) (token : Token) (lexer : Lexer) : Lexer :=
  if lexer.inFlow || column < lexer.minColumn then lexer
  else { lexer.insert index token with columns := column :: lexer.columns }

/-- Close the innermost block collections whose columns satisfy a condition. -/
def closeBlocks (isClosed : Nat → Bool) (lexer : Lexer) : Lexer :=
  let closed := lexer.columns.takeWhile isClosed
  { lexer with
    reversed := closed.map (fun _ => .blockEnd) ++ lexer.reversed
    count := lexer.count + closed.length
    columns := lexer.columns.dropWhile isClosed }

/-- Close the block collections to the right of a column. -/
def closeTo (column : Nat) (lexer : Lexer) : Lexer :=
  if lexer.inFlow then lexer else lexer.closeBlocks (column < ·)

/-- Close all block collections. -/
def closeAll (lexer : Lexer) : Lexer :=
  if lexer.inFlow then lexer else lexer.closeBlocks fun _ => true

/-- Give up the possible key, which must not be a required one. -/
def dropKey (lexer : Lexer) : Option Lexer :=
  if lexer.key.any (·.isRequired) then none else some { lexer with key := none }

/-- Give up the possible key if it is stale. The keys outside of the innermost
brackets are looked at when these are closed. -/
def dropStaleKey (lexer : Lexer) : Option Lexer :=
  if lexer.key.any (·.isStale lexer.cursor.position) then lexer.dropKey
  else some lexer

/-- Note that a key may start here, if one can. -/
def noteKey (lexer : Lexer) : Option Lexer := do
  if lexer.allowsKey then
    let lexer ← lexer.dropKey
    let position := lexer.cursor.position
    let isRequired :=
      !lexer.inFlow && lexer.columns.head? == some position.column
    return { lexer with key := some ⟨lexer.count, position, isRequired⟩ }
  else return lexer

/-- Say whether a key can start next. -/
def allowKey (allowsKey : Bool) (lexer : Lexer) : Lexer :=
  { lexer with allowsKey }

/-- Pass blanks, comments and line breaks. In a block a key can start behind a
line break; where one can start, a tab is no blank. A byte order mark is passed
at the start of a line. The result says whether a key can start behind. -/
def seek (inFlow allowsKey inComment : Bool) (position : Position) :
    List Char → Bool × Cursor
  | [] => (allowsKey, ⟨position, []⟩)
  | first :: rest =>
      let next := position.after first
      if isBreak first then seek inFlow (allowsKey || !inFlow) false next rest
      else if inComment then seek inFlow allowsKey true next rest
      else if first == '\ufeff' && position.column == 0 then
        seek inFlow allowsKey false next rest
      else if first == ' ' || (first == '\t' && (inFlow || !allowsKey)) then
        seek inFlow allowsKey false next rest
      else if first == '#' then seek inFlow allowsKey true next rest
      else (allowsKey, ⟨position, first :: rest⟩)

/-- Go to the start of the next token, and close the block collections that end
before it. -/
def advance (lexer : Lexer) : Option Lexer := do
  let (allowsKey, cursor) :=
    seek lexer.inFlow lexer.allowsKey false lexer.cursor.position
      lexer.cursor.rest
  let lexer ← { lexer with allowsKey, cursor }.dropStaleKey
  return lexer.closeTo cursor.position.column

/-- Cut off a directive. -/
def directive (lexer : Lexer) : Option Lexer := do
  let lexer ← lexer.closeAll.dropKey
  let (content, cursor) ← scanDirective lexer.cursor
  return { (lexer.emit (.directive content)).allowKey false with cursor }

/-- Cut off a marker of document bounds. -/
def marker (token : Token) (lexer : Lexer) : Option Lexer := do
  let lexer ← lexer.closeAll.dropKey
  return (lexer.pass token 3).allowKey false

/-- Cut off an opening bracket. -/
def openBracket (token : Token) (lexer : Lexer) : Option Lexer := do
  let lexer ← lexer.noteKey
  let lexer := (lexer.pass token 1).allowKey true
  return { lexer with key := none, outerKeys := lexer.key :: lexer.outerKeys }

/-- Cut off a closing bracket. -/
def closeBracket (token : Token) (lexer : Lexer) : Option Lexer := do
  let lexer ← lexer.dropKey
  let lexer := (lexer.pass token 1).allowKey false
  match lexer.outerKeys with
  | [] => return lexer
  | key :: outerKeys => return { lexer with key, outerKeys }

/-- Cut off a comma. -/
def comma (lexer : Lexer) : Option Lexer := do
  let lexer ← lexer.dropKey
  return (lexer.pass .flowEntry 1).allowKey true

/-- Cut off a dash, which opens a block sequence if there is none. -/
def dash (lexer : Lexer) : Option Lexer := do
  if !lexer.inFlow && !lexer.allowsKey then none
  let lexer :=
    lexer.openBlock lexer.cursor.position.column lexer.count .blockSequenceStart
  let lexer ← lexer.dropKey
  return (lexer.pass .blockEntry 1).allowKey true

/-- Cut off a question mark, which opens a block mapping if there is none. -/
def questionMark (lexer : Lexer) : Option Lexer := do
  if !lexer.inFlow && !lexer.allowsKey then none
  let lexer :=
    lexer.openBlock lexer.cursor.position.column lexer.count .blockMappingStart
  let lexer ← lexer.dropKey
  return (lexer.pass .key 1).allowKey !lexer.inFlow

/-- Cut off a colon. What may have been a key is one now. -/
def colon (lexer : Lexer) : Option Lexer := do
  match lexer.key with
  | some key =>
      let lexer := lexer.insert key.index .key
      let lexer :=
        lexer.openBlock key.position.column key.index .blockMappingStart
      return ({ lexer with key := none }.pass .value 1).allowKey false
  | none =>
      if !lexer.inFlow && !lexer.allowsKey then none
      let lexer :=
        lexer.openBlock lexer.cursor.position.column lexer.count
          .blockMappingStart
      return (lexer.pass .value 1).allowKey !lexer.inFlow

/-- Cut off the name of a node behind its mark. -/
def name (token : String → Token) (lexer : Lexer) : Option Lexer := do
  let lexer ← lexer.noteKey
  let (name, cursor) ← scanName (lexer.cursor.skip 1)
  return { (lexer.emit (token name)).allowKey false with cursor }

/-- Cut off a tag. -/
def tag (lexer : Lexer) : Option Lexer := do
  let lexer ← lexer.noteKey
  let (handle, suffix, cursor) ← scanTag lexer.inFlow lexer.cursor
  return { (lexer.emit (.tag handle suffix)).allowKey false with cursor }

/-- Cut off a scalar that was read. -/
def scalar (style : Style) (lexer : Lexer) (scanned : Scanned) : Lexer :=
  { (lexer.emit (.scalar style scanned.text)).allowKey scanned.allowsKey with
    cursor := scanned.cursor }

/-- Cut off a block scalar. -/
def blockScalar (style : Style) (lexer : Lexer) : Option Lexer := do
  let lexer ← lexer.dropKey
  return lexer.scalar style
    (← scanBlock (style == .literal) lexer.minColumn (lexer.cursor.skip 1))

/-- Cut off a scalar in quotes. -/
def quotedScalar
    (scan : List Char → Gap → Position → List Char → Option Scanned)
    (lexer : Lexer) :
    Option Lexer := do
  let lexer ← lexer.noteKey
  let cursor := lexer.cursor.skip 1
  return lexer.scalar .quoted (← scan [] .none cursor.position cursor.rest)

/-- Cut off a plain scalar. -/
def plainScalar (lexer : Lexer) : Option Lexer := do
  let lexer ← lexer.noteKey
  return lexer.scalar .plain
    (← scanPlain lexer.inFlow lexer.minColumn [] .none lexer.cursor.position
      lexer.cursor.rest)

/-- Cut off the token that starts with a character. -/
def cut (first : Char) (rest : List Char) (lexer : Lexer) : Option Lexer :=
  let startsLine := lexer.cursor.position.column == 0
  let isMark := lexer.inFlow || startsBlank rest
  if startsLine && first == '%' then lexer.directive
  else if startsLine && startsMarker (first :: rest) then
    lexer.marker (if first == '-' then .documentStart else .documentEnd)
  else if first == '[' then lexer.openBracket .flowSequenceStart
  else if first == '\x7b' then lexer.openBracket .flowMappingStart
  else if first == ']' then lexer.closeBracket .flowSequenceEnd
  else if first == '\x7d' then lexer.closeBracket .flowMappingEnd
  else if first == ',' then lexer.comma
  else if first == '-' && startsBlank rest then lexer.dash
  else if first == '?' && isMark then lexer.questionMark
  else if first == ':' && isMark then lexer.colon
  else if first == '*' then lexer.name .reference
  else if first == '&' then lexer.name .anchor
  else if first == '!' then lexer.tag
  else if first == '|' && !lexer.inFlow then lexer.blockScalar .literal
  else if first == '>' && !lexer.inFlow then lexer.blockScalar .folded
  else if first == '\x27' then lexer.quotedScalar scanSingle
  else if first == '"' then lexer.quotedScalar scanDouble
  else if startsPlain lexer.inFlow (first :: rest) then lexer.plainScalar
  else none

/-- Cut the rest of a text into tokens, of which there are at most `fuel`. -/
def run : (fuel : Nat) → (lexer : Lexer) → Option (List Token)
  | 0, _ => none
  | fuel + 1, lexer => do
      let lexer ← lexer.advance
      match lexer.cursor.rest with
      | [] => return (← lexer.closeAll.dropKey).reversed.reverse
      | first :: rest => run fuel (← lexer.cut first rest)

end Lexer

/-- The tokens of a text. There is no result where the text cannot be cut. -/
def Token.ofText? (text : String) : Option (List Token) :=
  let characters := text.toList
  if characters.all isPrintable then
    let characters := normalizeBreaks characters
    (Lexer.start characters).run (characters.length + 1)
  else none

end Yaml
end QueryLowering

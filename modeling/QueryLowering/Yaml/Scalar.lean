import QueryLowering.Text.Digits
import QueryLowering.Yaml.Cursor

/-!
# Scalars of documents

The characters of plain and of quoted scalars. Where a scalar goes on over
several lines, the blanks around a line break are dropped; a single line feed
becomes a space, and of several the first is dropped. A separator of Unicode
stays as it is.
-/

namespace QueryLowering
namespace Yaml

/-- How a scalar is written. -/
inductive Style
  | plain
  | quoted
  /-- Its lines are indented under a bar and keep their breaks. -/
  | literal
  /-- Its lines are indented under an angle bracket and are joined. -/
  | folded
  deriving DecidableEq

/-- A scalar that was read: its text, whether a key can start behind it, and the
place behind it. -/
structure Scanned where
  text : String
  allowsKey : Bool
  cursor : Cursor

/-- Blanks and line breaks inside a scalar that are not written out yet. -/
inductive Gap
  /-- Blanks inside a line, the last first. -/
  | blanks (reversed : List Char)
  /-- The first break, unless it was escaped, and the further ones, the last
  first. -/
  | breaks (first : Option Char) (reversed : List Char)

namespace Gap

/-- No blanks and no breaks. -/
def none : Gap := .blanks []

/-- The gap behind an escaped line break. -/
def escaped : Gap := .breaks Option.none []

/-- Whether there is a line break, escaped or not. -/
def crossesLine : Gap → Bool
  | .blanks _ => false
  | .breaks _ _ => true

/-- Whether there is nothing. -/
def isNone : Gap → Bool
  | .blanks reversed => reversed.isEmpty
  | .breaks _ _ => false

/-- The gap extended by a blank. Blanks after a break are dropped. -/
def addBlank (blank : Char) : Gap → Gap
  | .blanks reversed => .blanks (blank :: reversed)
  | .breaks first reversed => .breaks first reversed

/-- The gap extended by a line break. Blanks before it are dropped. -/
def addBreak (lineBreak : Char) : Gap → Gap
  | .blanks _ => .breaks (some lineBreak) []
  | .breaks first reversed => .breaks first (lineBreak :: reversed)

/-- Write out a gap behind a text that is given with its last character
first. -/
def fold (before : List Char) : Gap → List Char
  | .blanks reversed => reversed ++ before
  | .breaks (some '\n') [] => ' ' :: before
  | .breaks (some '\n') reversed => reversed ++ before
  | .breaks first reversed => reversed ++ (first.toList ++ before)

end Gap

/-- Whether a character starts something other than a plain scalar. -/
def isIndicator (character : Char) : Bool :=
  isFlowIndicator character
    || character ∈ ['-', '?', ':', '#', '&', '*', '!', '|', '>', '\x27', '"',
      '%', '@', '\x60']

/-- Whether a plain scalar can start here. -/
def startsPlain (inFlow : Bool) : List Char → Bool
  | [] => false
  | first :: rest =>
      (!isIndicator first && !isBlank first && !isBreak first)
        || (first == '-' && !startsBlank rest)
        || (!inFlow && (first == '?' || first == ':') && !startsBlank rest)

/-- Read the rest of a plain scalar. In block style it goes on over lines that
are indented to `minColumn`; in flow style it ends at a bracket or comma. -/
def scanPlain
    (inFlow : Bool)
    (minColumn : Nat)
    (reversed : List Char)
    (gap : Gap)
    (position : Position) :
    List Char → Option Scanned
  | [] => some ⟨String.ofList reversed.reverse, gap.crossesLine, ⟨position, []⟩⟩
  | first :: rest =>
      let stop : Option Scanned :=
        some ⟨String.ofList reversed.reverse, gap.crossesLine,
          ⟨position, first :: rest⟩⟩
      let next := position.after first
      if isBreak first then
        scanPlain inFlow minColumn reversed (gap.addBreak first) next rest
      else if isBlank first then
        if first == '\t' && gap.crossesLine && position.column < minColumn then
          none
        else scanPlain inFlow minColumn reversed (gap.addBlank first) next rest
      else if gap.crossesLine && !inFlow && position.column < minColumn then
        stop
      else if position.column == 0 && startsMarker (first :: rest) then stop
      else if first == '#' && !gap.isNone then stop
      else if inFlow && first == ':' &&
          rest.head?.any (fun next => isFlowIndicator next || next == '?') then
        none
      else if first == ':' && startsBlank rest then stop
      else if inFlow && isFlowIndicator first then stop
      else
        scanPlain inFlow minColumn (first :: gap.fold reversed) .none next rest

/-- Read the rest of a scalar in single quotes, where a quote is written
twice. -/
def scanSingle (reversed : List Char) (gap : Gap) (position : Position) :
    List Char → Option Scanned
  | [] => none
  | '\x27' :: '\x27' :: rest =>
      scanSingle ('\x27' :: gap.fold reversed) .none
        (position.afterAll ['\x27', '\x27']) rest
  | first :: rest =>
      let next := position.after first
      if first == '\x27' then
        some ⟨String.ofList (gap.fold reversed).reverse, false, ⟨next, rest⟩⟩
      else if position.column == 0 && startsMarker (first :: rest) then none
      else if isBreak first then
        scanSingle reversed (gap.addBreak first) next rest
      else if isBlank first then
        scanSingle reversed (gap.addBlank first) next rest
      else scanSingle (first :: gap.fold reversed) .none next rest

/-- The character that a letter stands for after a backslash. -/
def simpleEscape? : Char → Option Char
  | '0' => some '\x00'
  | 'a' => some '\x07'
  | 'b' => some '\x08'
  | 't' => some '\t'
  | '\t' => some '\t'
  | 'n' => some '\n'
  | 'v' => some '\x0b'
  | 'f' => some '\x0c'
  | 'r' => some '\r'
  | 'e' => some '\x1b'
  | ' ' => some ' '
  | '"' => some '"'
  | '/' => some '/'
  | '\\' => some '\\'
  | 'N' => some '\u0085'
  | '_' => some '\u00a0'
  | 'L' => some '\u2028'
  | 'P' => some '\u2029'
  | _ => none

/-- The character with a hexadecimal code, if it is one. -/
def characterOfHex? (digits : List Char) : Option Char := do
  let code ← Text.digitsValue? 16 digits
  if code.isValidChar then some (Char.ofNat code) else none

/-- Read the rest of a scalar in double quotes, where a backslash escapes. -/
def scanDouble (reversed : List Char) (gap : Gap) (position : Position) :
    List Char → Option Scanned
  | [] => none
  | '\\' :: 'x' :: a :: b :: rest =>
      match characterOfHex? [a, b] with
      | some character =>
          scanDouble (character :: gap.fold reversed) .none
            (position.afterAll ['\\', 'x', a, b]) rest
      | none => none
  | '\\' :: 'u' :: a :: b :: c :: d :: rest =>
      match characterOfHex? [a, b, c, d] with
      | some character =>
          scanDouble (character :: gap.fold reversed) .none
            (position.afterAll ['\\', 'u', a, b, c, d]) rest
      | none => none
  | '\\' :: 'U' :: a :: b :: c :: d :: e :: f :: g :: h :: rest =>
      match characterOfHex? [a, b, c, d, e, f, g, h] with
      | some character =>
          scanDouble (character :: gap.fold reversed) .none
            (position.afterAll ['\\', 'U', a, b, c, d, e, f, g, h]) rest
      | none => none
  | '\\' :: letter :: rest =>
      let next := position.afterAll ['\\', letter]
      if isBreak letter then scanDouble (gap.fold reversed) .escaped next rest
      else match simpleEscape? letter with
        | some character =>
            scanDouble (character :: gap.fold reversed) .none next rest
        | none => none
  | first :: rest =>
      let next := position.after first
      if first == '"' then
        some ⟨String.ofList (gap.fold reversed).reverse, false, ⟨next, rest⟩⟩
      else if position.column == 0 && startsMarker (first :: rest) then none
      else if isBreak first then
        scanDouble reversed (gap.addBreak first) next rest
      else if isBlank first then
        scanDouble reversed (gap.addBlank first) next rest
      else scanDouble (first :: gap.fold reversed) .none next rest

end Yaml
end QueryLowering

import QueryLowering.Yaml.Scalar

/-!
# Block scalars

A block scalar starts with a bar or an angle bracket, two optional indicators
and the end of the line. Its lines follow, indented to the column of the first
one or by the number that is indicated. Behind a bar every line break is kept.
Behind an angle bracket a line feed between two lines that start with other than
a blank becomes a space, or is dropped before empty lines.
-/

namespace QueryLowering
namespace Yaml

/-- What is kept of the line breaks at the end of a block scalar. -/
inductive Chomping
  /-- None of them. -/
  | strip
  /-- The one behind the last line. -/
  | clip
  /-- All of them. -/
  | keep

/-- The way of chomping that a character indicates. -/
def Chomping.ofCharacter? : Char → Option Chomping
  | '-' => some .strip
  | '+' => some .keep
  | _ => none

/-- The lines of a block scalar that were read. -/
structure BlockLines where
  /-- The text up to the last line that is not empty, the last character
  first. -/
  reversed : List Char
  /-- The break behind that line, once it is passed. -/
  lastBreak : Option Char
  /-- The breaks of the empty lines behind that, the last first. -/
  emptyLines : List Char
  /-- Whether that line starts with a blank. -/
  startsBlank : Bool

namespace BlockLines

/-- No lines. -/
def none : BlockLines := ⟨[], Option.none, [], false⟩

/-- Start a line that is not empty with its first character. -/
def startLine
    (isLiteral : Bool)
    (first : Char)
    (lines : BlockLines) :
    BlockLines :=
  let isJoined :=
    !isLiteral && lines.lastBreak == some '\n' && !lines.startsBlank &&
      !isBlank first
  let before :=
    if !isJoined then lines.lastBreak.toList ++ lines.reversed
    else if lines.emptyLines.isEmpty then ' ' :: lines.reversed
    else lines.reversed
  { reversed := first :: (lines.emptyLines ++ before)
    lastBreak := Option.none
    emptyLines := []
    startsBlank := isBlank first }

/-- Add a character to the line. -/
def addCharacter (character : Char) (lines : BlockLines) : BlockLines :=
  { lines with reversed := character :: lines.reversed }

/-- End the line. -/
def endLine (lineBreak : Char) (lines : BlockLines) : BlockLines :=
  { lines with lastBreak := some lineBreak }

/-- Add an empty line. -/
def addEmptyLine (lineBreak : Char) (lines : BlockLines) : BlockLines :=
  { lines with emptyLines := lineBreak :: lines.emptyLines }

/-- The text of all lines. -/
def text (chomping : Chomping) (lines : BlockLines) : String :=
  let lastBreak := lines.lastBreak.toList
  let reversed := match chomping with
    | .strip => lines.reversed
    | .clip => lastBreak ++ lines.reversed
    | .keep => lines.emptyLines ++ (lastBreak ++ lines.reversed)
  String.ofList reversed.reverse

end BlockLines

/-- The way of chomping and the digit that are indicated behind the start of a
block scalar, in either order, and how many characters indicate them. -/
def blockIndicators (rest : List Char) : Chomping × Option Char × Nat :=
  let first := rest.head?
  let second := (rest.drop 1).head?
  match first.bind Chomping.ofCharacter? with
  | some chomping =>
      match second.filter Char.isDigit with
      | some digit => (chomping, some digit, 2)
      | none => (chomping, none, 1)
  | none =>
      match first.filter Char.isDigit with
      | some digit =>
          match second.bind Chomping.ofCharacter? with
          | some chomping => (chomping, some digit, 2)
          | none => (.clip, some digit, 1)
      | none => (.clip, none, 0)

/-- Read the lines of a block scalar. Where no indentation is known, it is the
widest up to the first line that is not empty, and at least `least`. -/
def scanLines
    (isLiteral : Bool)
    (chomping : Chomping)
    (least : Nat)
    (indentation : Option Nat)
    (widest : Nat)
    (inLine : Bool)
    (lines : BlockLines)
    (position : Position) :
    List Char → Option Scanned
  | [] => some ⟨lines.text chomping, true, ⟨position, []⟩⟩
  | first :: rest =>
      let next := position.after first
      if inLine then
        if isBreak first then
          scanLines isLiteral chomping least indentation widest false
            (lines.endLine first) next rest
        else
          scanLines isLiteral chomping least indentation widest true
            (lines.addCharacter first) next rest
      else
        let isMargin := indentation.all
          fun indentation => decide (position.column < indentation)
        let widest := max widest position.column
        if first == ' ' && isMargin then
          scanLines isLiteral chomping least indentation widest false lines
            next rest
        else if first == '\t' && isMargin then none
        else if isBreak first then
          scanLines isLiteral chomping least indentation widest false
            (lines.addEmptyLine first) next rest
        else
          let indentation := indentation.getD (max widest least)
          if position.column = indentation then
            scanLines isLiteral chomping least (some indentation) widest true
              (lines.startLine isLiteral first) next rest
          else some ⟨lines.text chomping, true, ⟨position, first :: rest⟩⟩

/-- Read a block scalar behind its first character. Its lines are indented to
`minColumn` at least. -/
def scanBlock
    (isLiteral : Bool)
    (minColumn : Nat)
    (cursor : Cursor) :
    Option Scanned := do
  let (chomping, digit, count) := blockIndicators cursor.rest
  let cursor ← (cursor.skip count).endLine?
  let indentation ← match digit with
    | none => some none
    | some '0' => none
    | some digit => some (some (minColumn - 1 + (digit.toNat - '0'.toNat)))
  scanLines isLiteral chomping (max minColumn 1) indentation 0 false .none
    cursor.position cursor.rest

end Yaml
end QueryLowering

import Mathlib.Data.List.Infix
import QueryLowering.TypeMapping.Dialect

/-!
# Patterns

The operator LIKE compares a text with a pattern, character by character. In
every dialect `%` stands for any text and `_` for any character. SQL Server also
reads brackets, which stand for one character of a class, and Postgres reads a
backslash as an escape: the character after it stands for itself. All other
characters stand for themselves.

A pattern is read into pieces first, and the pieces are compared with the text.
A pattern that ends inside brackets or after an escape matches nothing.
-/

namespace QueryLowering
namespace Sql

/-- What a part of a pattern stands for. -/
inductive Piece
  | anyText
  | anyCharacter
  /-- One character of the class that is written so between brackets. -/
  | oneOf (written : List Char)
  | literal (character : Char)
  deriving DecidableEq

namespace Piece

/-- Whether a character is among single characters and ranges such as `a-f`. -/
def isAmong (character : Char) : List Char → Bool
  | low :: '-' :: high :: rest =>
      decide (low ≤ character) && decide (character ≤ high) ||
        isAmong character rest
  | single :: rest => single == character || isAmong character rest
  | [] => false

/-- Whether a class has a character. A caret in front excludes what follows. -/
def classHas (character : Char) : List Char → Bool
  | '^' :: excluded => !isAmong character excluded
  | included => isAmong character included

/-- Whether a piece that stands for one character stands for the given one. -/
def accepts : Piece → Char → Bool
  | .anyText, _ => false
  | .anyCharacter, _ => true
  | .oneOf written, character => classHas character written
  | .literal expected, character => expected == character

/-- Whether a text consists of what the pieces stand for, in order. -/
def matchesAll : List Piece → List Char → Bool
  | [], text => text.isEmpty
  | .anyText :: pieces, text => text.tails.any (matchesAll pieces)
  | _ :: _, [] => false
  | piece :: pieces, character :: text =>
      piece.accepts character && matchesAll pieces text

/-- How the next character of a pattern is read. -/
inductive Reading
  | plain
  | escaped
  /-- Between brackets, after what is written there so far, last character
  first. -/
  | bracketed (written : List Char)
  deriving DecidableEq

/-- The pieces of a pattern in a dialect, if it does not end too early. -/
def ofPattern? (dialect : Dialect) : Reading → List Char → Option (List Piece)
  | .plain, [] => some []
  | .escaped, [] => none
  | .bracketed _, [] => none
  | .plain, character :: rest =>
      if character = '%' then
        (ofPattern? dialect .plain rest).map (.anyText :: ·)
      else if character = '_' then
        (ofPattern? dialect .plain rest).map (.anyCharacter :: ·)
      else if dialect = .postgres ∧ character = '\\' then
        ofPattern? dialect .escaped rest
      else if dialect = .sqlServer ∧ character = '[' then
        ofPattern? dialect (.bracketed []) rest
      else (ofPattern? dialect .plain rest).map (.literal character :: ·)
  | .escaped, character :: rest =>
      (ofPattern? dialect .plain rest).map (.literal character :: ·)
  | .bracketed written, character :: rest =>
      if character = ']' then
        (ofPattern? dialect .plain rest).map (.oneOf written.reverse :: ·)
      else ofPattern? dialect (.bracketed (character :: written)) rest

end Piece

end Sql

/-- Whether a value is LIKE a pattern in a dialect. -/
def Dialect.like (dialect : Dialect) (value pattern : String) : Bool :=
  match Sql.Piece.ofPattern? dialect .plain pattern.toList with
  | some pieces => Sql.Piece.matchesAll pieces value.toList
  | none => false

namespace Sql
namespace Piece

theorem matchesAll_anyText (pieces : List Piece) (text : List Char) :
    matchesAll (.anyText :: pieces) text = true ↔
      ∃ before after, before ++ after = text ∧
        matchesAll pieces after = true := by
  simp only [matchesAll, List.any_eq_true, List.mem_tails]
  constructor
  · rintro ⟨after, ⟨before, rfl⟩, matched⟩
    exact ⟨before, after, rfl, matched⟩
  · rintro ⟨before, after, rfl, matched⟩
    exact ⟨after, ⟨before, rfl⟩, matched⟩

/-- Literal pieces stand for their characters, one after the other. -/
theorem matchesAll_literals
    (characters : List Char)
    (pieces : List Piece)
    (text : List Char) :
    matchesAll (characters.map .literal ++ pieces) text = true ↔
      ∃ after, characters ++ after = text ∧ matchesAll pieces after = true := by
  induction characters generalizing text with
  | nil => simp
  | cons character rest inductionHypothesis =>
      cases text with
      | nil => simp [matchesAll]
      | cons first text =>
          simp only [List.map_cons, List.cons_append, matchesAll, accepts,
            Bool.and_eq_true, beq_iff_eq, inductionHypothesis, List.cons.injEq,
            and_assoc]
          simp

/-- Any text where a place is open, and nothing where it is not. -/
def opening (isOpen : Bool) : List Piece :=
  if isOpen then [.anyText] else []

/-- An open place takes any text, and another one takes none. -/
theorem matchesAll_opening
    (isOpen : Bool)
    (pieces : List Piece)
    (text : List Char) :
    matchesAll (opening isOpen ++ pieces) text = true ↔
      ∃ before after, before ++ after = text ∧ (before = [] ∨ isOpen = true) ∧
        matchesAll pieces after = true := by
  cases isOpen with
  | true => simpa [opening] using matchesAll_anyText pieces text
  | false => simp [opening]

/-- Between places that may be open, literal pieces match where their characters
occur. -/
theorem matchesAll_between
    (openBefore openAfter : Bool)
    (characters text : List Char) :
    matchesAll (opening openBefore ++
        (characters.map .literal ++ opening openAfter)) text = true ↔
      ∃ before after, before ++ (characters ++ after) = text ∧
        (before = [] ∨ openBefore = true) ∧
        (after = [] ∨ openAfter = true) := by
  have atEnd : ∀ rest : List Char, matchesAll (opening openAfter) rest = true ↔
      rest = [] ∨ openAfter = true := by
    intro rest
    have opened := matchesAll_opening openAfter [] rest
    rw [List.append_nil] at opened
    rw [opened]
    simp [matchesAll]
  simp only [matchesAll_opening, matchesAll_literals, atEnd]
  constructor
  · rintro ⟨before, _, rfl, atStart, after, rfl, ends⟩
    exact ⟨before, after, rfl, atStart, ends⟩
  · rintro ⟨before, after, rfl, atStart, ends⟩
    exact ⟨before, _, rfl, atStart, after, rfl, ends⟩

/-- Reading a text gives literal pieces for some characters, whatever follows,
and leaves the reader as it is for the rest. -/
def ReadsTo
    (dialect : Dialect)
    (start : Reading)
    (text characters : List Char)
    (next : Reading) : Prop :=
  ∀ rest, ofPattern? dialect start (text ++ rest) =
    (ofPattern? dialect next rest).map (characters.map .literal ++ ·)

theorem ReadsTo.nil (dialect : Dialect) (reading : Reading) :
    ReadsTo dialect reading [] [] reading := by
  intro rest
  simp

/-- A character that is read as a literal comes before what is read after it. -/
theorem ReadsTo.cons
    {dialect : Dialect}
    {start next : Reading}
    {character : Char}
    {text characters : List Char}
    (isLiteral : ∀ rest, ofPattern? dialect start (character :: rest) =
      (ofPattern? dialect .plain rest).map (.literal character :: ·))
    (readsTo : ReadsTo dialect .plain text characters next) :
    ReadsTo dialect start (character :: text) (character :: characters)
      next := by
  intro rest
  rw [List.cons_append, isLiteral, readsTo, Option.map_map]
  rfl

/-- A backslash leaves the next character to be read as a literal in
Postgres. -/
theorem ReadsTo.escape
    {text characters : List Char}
    {next : Reading}
    (readsTo : ReadsTo .postgres .escaped text characters next) :
    ReadsTo .postgres .plain ('\\' :: text) characters next := by
  intro rest
  rw [List.cons_append, ofPattern?, if_neg (by decide), if_neg (by decide),
    if_pos ⟨rfl, rfl⟩, readsTo]

end Piece
end Sql
end QueryLowering

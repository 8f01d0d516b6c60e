import QueryLowering.Text.Digits
import QueryLowering.Yaml.Cursor

/-!
# Names, tags and directives

A node of a document can be named by an anchor, and have a tag, which is a
handle with a suffix. Directives at the start of a document give its version and
the expansion of handles. Suffixes and expansions are bytes, which can be
escaped by a percent sign.
-/

namespace QueryLowering
namespace Yaml

/-- Read the name of an anchor, behind its mark. -/
def scanName (cursor : Cursor) : Option (String × Cursor) :=
  let (name, after) := cursor.span isNameCharacter
  let isEnded := startsBlank after.rest
    || after.first?.any (· ∈ ['?', ':', ',', ']', '\x7d', '%', '@', '\x60'])
  if !name.isEmpty && isEnded then some (String.ofList name, after) else none

/-- Whether a character can stand in the suffix of a tag. -/
def isSuffixCharacter (character : Char) : Bool :=
  isNameCharacter character
    || character ∈ [';', '/', '?', ':', '@', '&', '=', '+', '$', '.', '%', '!',
      '~', '*', '\x27', '(', ')']

/-- How many bytes a character has whose first byte is given. -/
def lengthOfLeadingByte? (byte : UInt8) : Option Nat :=
  if byte < 0x80 then some 1
  else if byte &&& 0xE0 = 0xC0 then some 2
  else if byte &&& 0xF0 = 0xE0 then some 3
  else if byte &&& 0xF8 = 0xF0 then some 4
  else none

/-- Read the bytes of a suffix. Escaped bytes form whole characters, of which
`missing` more bytes must follow. Where a tag stands in angle brackets, the
signs `accepted` can stand in it besides. -/
def scanSuffix
    (accepted : List Char)
    (reversed : List UInt8)
    (missing : Nat)
    (position : Position) :
    List Char → Option (List UInt8 × Cursor)
  | [] => if missing = 0 then some (reversed.reverse, ⟨position, []⟩) else none
  | '%' :: high :: low :: rest =>
      let next := position.afterAll ['%', high, low]
      match Text.digitsValue? 16 [high, low] with
      | none => none
      | some value =>
          let byte := UInt8.ofNat value
          if missing = 0 then
            match lengthOfLeadingByte? byte with
            | some length =>
                scanSuffix accepted (byte :: reversed) (length - 1) next rest
            | none => none
          else if byte &&& 0xC0 = 0x80 then
            scanSuffix accepted (byte :: reversed) (missing - 1) next rest
          else none
  | first :: rest =>
      if missing ≠ 0 || first == '%' then none
      else if isSuffixCharacter first || first ∈ accepted then
        scanSuffix accepted (UInt8.ofNat first.toNat :: reversed) 0
          (position.after first) rest
      else some (reversed.reverse, ⟨position, first :: rest⟩)

/-- The signs that can stand in a suffix only where something encloses it. -/
def enclosedSigns : List Char := [',', '[', ']']

/-- The bytes of a suffix of at least one byte. -/
def scanFullSuffix
    (accepted : List Char)
    (cursor : Cursor) :
    Option (List UInt8 × Cursor) := do
  let (suffix, after) ← scanSuffix accepted [] 0 cursor.position cursor.rest
  if suffix.isEmpty then none else some (suffix, after)

/-- Read the handle of a tag: an exclamation mark, and a name with another
one. -/
def scanHandle (cursor : Cursor) : List Char × Cursor :=
  let (name, after) := (cursor.skip 1).span isNameCharacter
  if after.first? = some '!' then ('!' :: name ++ ['!'], after.skip 1)
  else ('!' :: name, after)

/-- Whether a handle has a mark at its end too. -/
def isClosedHandle (handle : List Char) : Bool :=
  1 < handle.length && handle.getLast? == some '!'

/-- Read a tag: its handle, its suffix and the place behind it. The handle is
empty where the suffix is the whole tag. -/
def scanTag
    (inFlow : Bool)
    (cursor : Cursor) :
    Option (String × List UInt8 × Cursor) := do
  let (handle, suffix, after) ←
    if (cursor.rest.drop 1).head? = some '<' then do
      let (suffix, after) ← scanFullSuffix enclosedSigns (cursor.skip 2)
      if after.first? = some '>' then pure ("", suffix, after.skip 1) else none
    else
      let (handle, after) := scanHandle cursor
      if isClosedHandle handle then do
        let (suffix, after) ← scanFullSuffix [] after
        pure (String.ofList handle, suffix, after)
      else do
        let (suffix, after) ← scanSuffix [] [] 0 after.position after.rest
        let suffix := (String.ofList (handle.drop 1)).toUTF8.toList ++ suffix
        pure (if suffix.isEmpty then ("", "!".toUTF8.toList, after)
          else ("!", suffix, after))
  if startsBlank after.rest || (inFlow && after.first? = some ',') then
    some (handle, suffix, after)
  else none

/-- What a directive says. -/
inductive Directive
  | version (major minor : Nat)
  | handle (handle : String) (expansion : List UInt8)

/-- Read a number of at most nine digits. -/
def scanNumber (cursor : Cursor) : Option (Nat × Cursor) := do
  let (digits, after) := cursor.span Char.isDigit
  if digits.length ≤ 9 then some (← Text.decimalValue? digits, after) else none

/-- Read what a version directive says. -/
def scanVersion (cursor : Cursor) : Option (Directive × Cursor) := do
  let (major, after) ← scanNumber cursor
  if after.first? = some '.' then do
    let (minor, after) ← scanNumber (after.skip 1)
    some (.version major minor, after)
  else none

/-- Read what a directive on a handle says. -/
def scanExpansion (cursor : Cursor) : Option (Directive × Cursor) := do
  if cursor.first? ≠ some '!' then none
  let (handle, after) := scanHandle cursor
  if handle ≠ ['!'] && !isClosedHandle handle then none
  if !after.first?.any isBlank then none
  let (expansion, after) ← scanFullSuffix enclosedSigns
    (after.skipWhile isBlank)
  if startsBlank after.rest then
    some (.handle (String.ofList handle) expansion, after)
  else none

/-- Read a directive up to the end of its line. -/
def scanDirective (cursor : Cursor) : Option (Directive × Cursor) := do
  let (name, after) := (cursor.skip 1).span isNameCharacter
  if !startsBlank after.rest then none
  let content := after.skipWhile isBlank
  let (directive, after) ← match String.ofList name with
    | "YAML" => scanVersion content
    | "TAG" => scanExpansion content
    | _ => none
  return (directive, ← after.endLine?)

end Yaml
end QueryLowering

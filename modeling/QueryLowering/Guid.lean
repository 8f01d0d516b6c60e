import QueryLowering.Text.Digits

/-!
# Globally unique identifiers

An identifier is a number of 128 bits. It is written as 32 lowercase hexadecimal
digits in groups of 8, 4, 4, 4 and 12. Reading also accepts the digits without
hyphens, and the grouped form in braces or after `urn:uuid:` in any case.
-/

namespace QueryLowering

/-- An identifier of 128 bits. -/
structure Guid where
  value : BitVec 128
  deriving DecidableEq

namespace Guid

/-- The 32 digits of an identifier. -/
def digits (guid : Guid) : List Char := Text.fixedDigits 16 32 guid.value.toNat

/-- Insert hyphens after the first 8, 12, 16 and 20 characters. -/
def group (digits : List Char) : List Char :=
  digits.take 8
    ++ '-' :: (digits.drop 8).take 4
    ++ '-' :: (digits.drop 12).take 4
    ++ '-' :: (digits.drop 16).take 4
    ++ '-' :: digits.drop 20

/-- The written form of an identifier. -/
def text (guid : Guid) : List Char := group guid.digits

/-- The identifier with the given 32 hexadecimal digits, of either case. -/
def ofDigits? (digits : List Char) : Option Guid :=
  if digits.length = 32 then
    (Text.digitsValue? 16 digits).map fun value => ⟨BitVec.ofNat 128 value⟩
  else none

/-- The 32 digits of a grouped text, if the hyphens stand in their places. -/
def ungroup? (text : List Char) : Option (List Char) :=
  let digits := text.filter (· != '-')
  if group digits = text then some digits else none

/-- Read the grouped form. -/
def ofGrouped? (text : List Char) : Option Guid := do
  ofDigits? (← ungroup? text)

/-- What stands between braces. -/
def insideBraces? : List Char → Option (List Char)
  | '\x7b' :: rest =>
      if rest.getLast? = some '\x7d' then some rest.dropLast else none
  | _ => none

/-- What follows the name of the resource scheme of identifiers, in any case. -/
def afterScheme? (text : List Char) : Option (List Char) :=
  let scheme := "urn:uuid:".toList
  if (text.take scheme.length).map Char.toLower = scheme then
    some (text.drop scheme.length)
  else none

/-- Read an identifier in any of the accepted forms. -/
def ofText? (text : List Char) : Option Guid :=
  ofDigits? text
    <|> ofGrouped? text
    <|> (insideBraces? text >>= ofGrouped?)
    <|> (afterScheme? text >>= ofGrouped?)

end Guid
end QueryLowering

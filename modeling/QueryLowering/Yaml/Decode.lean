import QueryLowering.Text.Unsigned
import QueryLowering.Yaml.Node

/-!
# Decoding documents

A node is decoded by the form that is expected of it. Any scalar is text, while
truth values, numbers and null have to be plain. An empty node is an empty list
and a structure without fields. A reference is followed where its node matters,
and in all at most a hundred times as often as the document has events.
-/

namespace QueryLowering
namespace Yaml

/-- Decoding against a document, which counts the references that were
followed. -/
abbrev Decoder (α : Type) := ReaderT Document (StateT Nat Option) α

namespace Decoder

/-- Decode the root of a document. -/
def run? (decode : Node → Decoder α) (document : Document) : Option α :=
  ((decode document.root).run document).run' 0

/-- The value of an optional result. -/
def ofOption : Option α → Decoder α
  | some value => return value
  | none => failure

end Decoder

namespace Node

/-- The node itself, or the one that a reference stands for. -/
def follow : Node → Decoder Node
  | .reference number => do
      let document ← read
      let followed ← modifyGet fun followed => (followed + 1, followed + 1)
      if 100 * document.size < followed then failure
      else .ofOption (document.target? number)
  | node => return node

/-- Whether a text is a word for null. -/
def isNullWord (text : String) : Bool := text ∈ ["~", "null", "Null", "NULL"]

/-- The text of a scalar. -/
def text (node : Node) : Decoder String := do
  match ← node.follow with
  | .scalar text _ _ => return text
  | _ => failure

/-- The text of a scalar, or none for null. Null is nothing, a tilde or the
word, unless a tag says otherwise; what is tagged as null must be a word for
it. -/
def optionalText (node : Node) : Decoder (Option String) := do
  match ← node.follow with
  | .scalar text .plain none =>
      return if text.isEmpty || isNullWord text then none else some text
  | .scalar text .plain (some "tag:yaml.org,2002:null") =>
      if isNullWord text then return none else failure
  | .scalar text _ _ => return some text
  | _ => failure

/-- The text of a scalar that can be a value of the kind with a tag: a plain
one, or a literal one with the tag. -/
def literalText (kindTag : String) (node : Node) : Decoder String := do
  match ← node.follow with
  | .scalar text .plain _ => return text
  | .scalar text .literal (some tag) =>
      if tag = kindTag then return text else failure
  | _ => failure

/-- The truth value that a text denotes. -/
def booleanOfText? (text : String) : Option Bool :=
  if text ∈ ["true", "True", "TRUE"] then some true
  else if text ∈ ["false", "False", "FALSE"] then some false
  else none

/-- The truth value that a scalar denotes. -/
def boolean (node : Node) : Decoder Bool := do
  .ofOption (booleanOfText? (← node.literalText "tag:yaml.org,2002:bool"))

/-- The digits of a number in the given base, of which there is at least one. -/
def digits? (base : Nat) : List Char → Option Nat
  | [] => none
  | digits => Text.digitsValue? base digits

/-- The number that digits denote, which are decimal without a leading zero, or
follow the mark of another base. -/
def digitsOfAnyBase? : List Char → Option Nat
  | '0' :: 'x' :: rest => digits? 16 rest
  | '0' :: 'o' :: rest => digits? 8 rest
  | '0' :: 'b' :: rest => digits? 2 rest
  | ['0'] => some 0
  | '0' :: _ => none
  | digits => digits? 10 digits

/-- The number of 32 bits that a text denotes. -/
def unsignedOfText? (text : String) : Option UInt32 := do
  let value ← digitsOfAnyBase? (match text.toList with
    | '+' :: rest => rest
    | characters => characters)
  if value < UInt32.size then some (UInt32.ofNat value) else none

/-- The number of 32 bits that a scalar denotes. -/
def unsigned (node : Node) : Decoder UInt32 := do
  .ofOption (unsignedOfText? (← node.literalText "tag:yaml.org,2002:int"))

/-- The name in a tag of the document's own, behind the mark. -/
def ownName? (tag : String) : Option String :=
  match tag.toList with
  | ['!'] => some tag
  | '!' :: name => some (String.ofList name)
  | _ => none

/-- The name of a variant without content: the text of a scalar, or a tag of the
document's own before null. -/
def variantName (node : Node) : Decoder String := do
  match ← node.follow with
  | .scalar text style tag =>
      match tag.bind ownName? with
      | none => return text
      | some name =>
          if style = .plain && (text.isEmpty || isNullWord text) then
            return name
          else failure
  | _ => failure

/-- The items of a list. -/
def items (node : Node) : Decoder (List Node) := do
  match ← node.follow with
  | .sequence items => return items
  | node => if node.isEmpty then return [] else failure

/-- The known fields among the entries of a mapping. Every key must be a scalar,
and a known one must not be repeated. -/
def knownFields (known : List String) :
    List (Node × Node) → Decoder (List (String × Node))
  | [] => return []
  | (key, value) :: rest => do
      let name ← key.text
      let fields ← knownFields known rest
      if name ∈ known then
        if (fields.lookup name).isSome then failure
        else return (name, value) :: fields
      else return fields

/-- The known fields of a structure. -/
def fields
    (known : List String)
    (node : Node) :
    Decoder (List (String × Node)) := do
  match ← node.follow with
  | .mapping entries => knownFields known entries
  | node => if node.isEmpty then return [] else failure

end Node

/-- Decode a field that must be present. -/
def required
    (fields : List (String × Node))
    (name : String)
    (decode : Node → Decoder α) :
    Decoder α :=
  match fields.lookup name with
  | some node => decode node
  | none => failure

/-- Decode a field that has a standard value when it is absent. -/
def optional
    (fields : List (String × Node))
    (name : String)
    (standard : α)
    (decode : Node → Decoder α) :
    Decoder α :=
  match fields.lookup name with
  | some node => decode node
  | none => return standard

end Yaml
end QueryLowering

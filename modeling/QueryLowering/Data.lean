import QueryLowering.Binary64

/-!
# Exchange data

Queries, SQL expressions and results are exchanged as data trees. A structure is
a record of its fields. A choice among variants is a record of one field, named
for the variant, or only the name of a variant without content. What is absent
is null.

When data is read, a structure may also be a list of all its fields in order,
but the content of a variant with named fields may not. Unknown fields are
ignored, and an optional field may be missing.
-/

namespace QueryLowering

/-- A tree of exchange data. -/
inductive Data
  | null
  | boolean (value : Bool)
  | integer (value : Int)
  | float (value : Binary64)
  | text (value : String)
  | list (items : List Data)
  | record (fields : List (String × Data))
  deriving Inhabited

namespace Data

mutual

/-- The number of nested levels. -/
def height : Data → Nat
  | .list items => heightOfAll items + 1
  | .record fields => heightOfFields fields + 1
  | _ => 1

/-- The greatest height in a list. -/
def heightOfAll : List Data → Nat
  | [] => 0
  | item :: rest => max item.height (heightOfAll rest)

/-- The greatest height among the contents of fields. -/
def heightOfFields : List (String × Data) → Nat
  | [] => 0
  | (_, content) :: rest => max content.height (heightOfFields rest)

end

/-- A variant with content. -/
def variant (name : String) (content : Data) : Data := .record [(name, content)]

/-- Content that may be absent. -/
def ofOption (encode : α → Data) : Option α → Data
  | some value => encode value
  | none => .null

/-- The name of a variant, and its content if it has any. -/
def variant? : Data → Option (String × Option Data)
  | .text name => some (name, none)
  | .record [(name, content)] => some (name, some content)
  | _ => none

/-- The name of a variant without content, for which null may stand. -/
def variantName? (data : Data) : Option String :=
  match data.variant? with
  | some (name, none) => some name
  | some (name, some .null) => some name
  | _ => none

/-- The fields of a structure, each under its name if it is present. -/
def fields? (names : List String) : Data → Option (List (String × Data))
  | .record fields => some fields
  | .list items =>
      if items.length = names.length then some (names.zip items) else none
  | _ => none

/-- The fields of a record. -/
def recordFields? : Data → Option (List (String × Data))
  | .record fields => some fields
  | _ => none

/-- Read a field that must be present. -/
def required?
    (fields : List (String × Data))
    (name : String)
    (decode? : Data → Option α) :
    Option α :=
  (fields.lookup name).bind decode?

/-- Read a field that may be missing or null. -/
def optional?
    (fields : List (String × Data))
    (name : String)
    (decode? : Data → Option α) :
    Option (Option α) :=
  match fields.lookup name with
  | none => some none
  | some .null => some none
  | some data => (decode? data).map some

/-- Read a text. -/
def text? : Data → Option String
  | .text value => some value
  | _ => none

/-- Read a truth value. -/
def boolean? : Data → Option Bool
  | .boolean value => some value
  | _ => none

/-- Read an integer. -/
def integer? : Data → Option Int
  | .integer value => some value
  | _ => none

/-- Read a natural number below a bound. -/
def bounded? (bound : Nat) (data : Data) : Option Nat := do
  let value ← data.integer?
  if 0 ≤ value ∧ value < bound then some value.toNat else none

/-- Read a list, item by item. -/
def list? (decode? : Data → Option α) : Data → Option (List α)
  | .list items => items.mapM decode?
  | _ => none

end Data
end QueryLowering

import QueryLowering.Yaml.Event

/-!
# Document trees

A document in the human-readable data language YAML is a tree of scalars,
sequences and mappings. A scalar keeps its text, its tag and how it is written.
A node can be named by an anchor, and a reference stands for the node of a name.
-/

namespace QueryLowering
namespace Yaml

/-- A node of a document. -/
inductive Node
  | scalar (text : String) (style : Style) (tag : Option String)
  | sequence (items : List Node)
  | mapping (entries : List (Node × Node))
  /-- The node of the anchor with a number. -/
  | reference (number : Nat)

namespace Node

/-- What stands where nothing is written. -/
def empty : Node := .scalar "" .plain none

/-- Whether nothing is written. -/
def isEmpty : Node → Bool
  | .scalar text style _ => text.isEmpty && style == .plain
  | _ => false

end Node

/-- A node that is named by an anchor. -/
structure Anchored where
  /-- The number of the anchor. -/
  number : Nat
  /-- The number of the event that starts the node. -/
  event : Nat
  node : Node

/-- A document: its tree, the nodes that are named in it, and the number of its
events. -/
structure Document where
  root : Node
  anchored : List Anchored
  size : Nat

/-- The number of an anchor, and the number of the event that it stands
before. -/
structure AnchorPlace where
  number : Nat
  event : Nat

/-- A collection whose end is not reached, with its content so far in
reverse. -/
inductive Unfinished
  | sequence (anchor : Option AnchorPlace) (items : List Node)
  | mapping (anchor : Option AnchorPlace) (entries : List (Node × Node))
      (key : Option Node)

/-- A document that is built from its events. -/
structure Builder where
  /-- The open collections, the innermost first. -/
  unfinished : List Unfinished
  root : Option Node
  anchored : List Anchored
  /-- The numbers of the names of anchors, the newest first. -/
  numbers : List (String × Nat)
  /-- How many names there are. -/
  nameCount : Nat
  /-- The number of events so far. -/
  size : Nat

namespace Builder

/-- A document of which nothing is built. -/
def start : Builder where
  unfinished := []
  root := none
  anchored := []
  numbers := []
  nameCount := 0
  size := 0

/-- Number the anchor of the node that the next event starts. An anchor has the
number of names before it, so that a name that is used again can share its
number with another name. -/
def place
    (anchor : Option String)
    (builder : Builder) :
    Builder × Option AnchorPlace :=
  match anchor with
  | none => (builder, none)
  | some name =>
      let number := builder.nameCount
      let isKnown := (builder.numbers.lookup name).isSome
      ({ builder with
          numbers := (name, number) :: builder.numbers
          nameCount := if isKnown then number else number + 1 },
        some ⟨number, builder.size⟩)

/-- Put a complete node into the innermost open collection. -/
def complete
    (anchor : Option AnchorPlace)
    (node : Node)
    (builder : Builder) :
    Builder :=
  let anchored := match anchor with
    | some place => ⟨place.number, place.event, node⟩ :: builder.anchored
    | none => builder.anchored
  let builder := { builder with anchored }
  match builder.unfinished with
  | [] => { builder with root := some node }
  | .sequence anchor items :: rest =>
      { builder with unfinished := .sequence anchor (node :: items) :: rest }
  | .mapping anchor entries none :: rest =>
      { builder with unfinished := .mapping anchor entries (some node) :: rest }
  | .mapping anchor entries (some key) :: rest =>
      { builder with
        unfinished := .mapping anchor ((key, node) :: entries) none :: rest }

/-- Open a collection. -/
def openCollection (collection : Unfinished) (builder : Builder) : Builder :=
  { builder with unfinished := collection :: builder.unfinished }

/-- Build what an event says. A reference must follow the anchor of its name. -/
def apply (builder : Builder) : Event → Option Builder
  | .reference name => do
      return builder.complete none (.reference (← builder.numbers.lookup name))
  | .scalar properties style text =>
      let (builder, anchor) := builder.place properties.anchor
      some (builder.complete anchor (.scalar text style properties.tag))
  | .sequenceStart properties =>
      let (builder, anchor) := builder.place properties.anchor
      some (builder.openCollection (.sequence anchor []))
  | .mappingStart properties =>
      let (builder, anchor) := builder.place properties.anchor
      some (builder.openCollection (.mapping anchor [] none))
  | .collectionEnd =>
      match builder.unfinished with
      | .sequence anchor items :: unfinished =>
          some ({ builder with unfinished }.complete anchor
            (.sequence items.reverse))
      | .mapping anchor entries none :: unfinished =>
          some ({ builder with unfinished }.complete anchor
            (.mapping entries.reverse))
      | _ => none

/-- Build what the next event says, and count it. -/
def step (builder : Builder) (event : Event) : Option Builder := do
  let builder ← builder.apply event
  return { builder with size := builder.size + 1 }

end Builder

namespace Document

/-- The document of which nothing is written. -/
def empty : Document := ⟨.empty, [], 1⟩

/-- The document with the given events. -/
def ofEvents? (events : List Event) : Option Document :=
  if events.isEmpty then some empty
  else do
    let builder ← events.foldlM Builder.step .start
    return ⟨← builder.root, builder.anchored, builder.size⟩

/-- Read a text that holds at most one document. There is no result where the
text is malformed. -/
def ofText? (text : String) : Option Document := do
  ofEvents? (← Event.ofTokens? (← Token.ofText? text))

/-- The node of the anchor with a number: the one that starts last. -/
def target? (document : Document) (number : Nat) : Option Node :=
  let last? := document.anchored.foldl
    (fun (last? : Option Anchored) anchored =>
      if anchored.number ≠ number then last?
      else match last? with
        | none => some anchored
        | some last =>
            if last.event < anchored.event then some anchored else some last)
    none
  last?.map (·.node)

end Document
end Yaml
end QueryLowering

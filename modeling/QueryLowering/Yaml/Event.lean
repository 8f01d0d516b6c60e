import QueryLowering.Yaml.Token

/-!
# Events of documents

A document is a sequence of events in the order of its text: scalars, references
and the starts and ends of collections. The events are found with a list of
goals, the next one first; each goal takes some tokens, gives some events and
can set further goals.
-/

namespace QueryLowering
namespace Yaml

/-- The name and the tag of a node. -/
structure Properties where
  anchor : Option String
  tag : Option String

namespace Properties

/-- No name and no tag. -/
def none : Properties := ⟨Option.none, Option.none⟩

/-- Whether there is neither a name nor a tag. -/
def isNone (properties : Properties) : Bool :=
  properties.anchor.isNone && properties.tag.isNone

end Properties

/-- An event of a document. -/
inductive Event
  | reference (name : String)
  | scalar (properties : Properties) (style : Style) (text : String)
  | sequenceStart (properties : Properties)
  | mappingStart (properties : Properties)
  /-- The end of the innermost open collection. -/
  | collectionEnd

namespace Event

/-- The scalar that stands where nothing is written. -/
def empty : Event := .scalar .none .plain ""

end Event

/-- The handles of tags with their expansions. -/
abbrev Handles := List (String × List UInt8)

namespace Handles

/-- The handles that need no directive. -/
def standard : Handles :=
  [("!", "!".toUTF8.toList), ("!!", "tag:yaml.org,2002:".toUTF8.toList)]

/-- The tag with a handle and a suffix. Bytes that are no text give the empty
tag, which has no meaning. -/
def tag?
    (handles : Handles)
    (handle : String)
    (suffix : List UInt8) :
    Option String := do
  let expansion ← if handle.isEmpty then some [] else handles.lookup handle
  return (String.fromUTF8? ⟨(expansion ++ suffix).toArray⟩).getD ""

end Handles

/-- What is expected next in a document. -/
inductive Goal
  /-- A node. It can be a block collection, and a sequence whose dashes stand in
  the column of the key before it. -/
  | node (allowsBlock allowsDashes : Bool)
  /-- Nothing, which stands for an empty scalar. -/
  | nothing
  /-- The end of a collection that needs no token. -/
  | close
  /-- Further items of a block sequence. -/
  | blockItems
  /-- Further items of a sequence without indentation. -/
  | dashItems
  /-- Further entries of a block mapping. -/
  | blockEntries
  /-- The value of a block mapping, if there is one. -/
  | blockValue
  /-- Further items of a sequence in brackets. -/
  | flowItems (isFirst : Bool)
  /-- The key of a single pair in a sequence in brackets. -/
  | pairKey
  /-- The value of that pair, if there is one. -/
  | pairValue
  /-- Further entries of a mapping in braces. -/
  | flowEntries (isFirst : Bool)
  /-- The value of a mapping in braces, if there is one. -/
  | flowValue

namespace Goal

/-- What a goal gives: events, further goals and the remaining tokens. -/
abbrev Step := List Event × List Goal × List Token

/-- The name and the tag before a node, in either order. -/
def properties? (handles : Handles) :
    List Token → Option (Properties × List Token)
  | .anchor name :: .tag handle suffix :: rest => do
      return (⟨some name, some (← handles.tag? handle suffix)⟩, rest)
  | .tag handle suffix :: .anchor name :: rest => do
      return (⟨some name, some (← handles.tag? handle suffix)⟩, rest)
  | .tag handle suffix :: rest => do
      return (⟨none, some (← handles.tag? handle suffix)⟩, rest)
  | .anchor name :: rest => some (⟨some name, none⟩, rest)
  | tokens => some (.none, tokens)

/-- Take a node. The tag that is only a mark says nothing of a scalar. -/
def takeNode
    (handles : Handles)
    (allowsBlock allowsDashes : Bool) :
    List Token → Option Step
  | .reference name :: rest => some ([.reference name], [], rest)
  | tokens => do
      let (properties, rest) ← properties? handles tokens
      match rest, allowsBlock, allowsDashes with
      | .blockEntry :: _, _, true =>
          some ([.sequenceStart properties], [.dashItems], rest)
      | .scalar style text :: rest, _, _ =>
          let tag := properties.tag.filter (· != "!")
          some ([.scalar ⟨properties.anchor, tag⟩ style text], [], rest)
      | .flowSequenceStart :: rest, _, _ =>
          some ([.sequenceStart properties], [.flowItems true], rest)
      | .flowMappingStart :: rest, _, _ =>
          some ([.mappingStart properties], [.flowEntries true], rest)
      | .blockSequenceStart :: rest, true, _ =>
          some ([.sequenceStart properties], [.blockItems], rest)
      | .blockMappingStart :: rest, true, _ =>
          some ([.mappingStart properties], [.blockEntries], rest)
      | rest, _, _ =>
          if properties.isNone then none
          else some ([.scalar properties .plain ""], [], rest)

/-- A node of block style, unless what ends it comes next. -/
def blockNode (allowsDashes : Bool) : List Token → Goal
  | .blockEnd :: _ => .nothing
  | .key :: _ => .nothing
  | .value :: _ => .nothing
  | .blockEntry :: _ => if allowsDashes then .node true true else .nothing
  | _ => .node true allowsDashes

/-- A node of flow style, unless what ends it comes next. -/
def flowNode : List Token → Goal
  | .flowEntry :: _ => .nothing
  | .flowSequenceEnd :: _ => .nothing
  | .flowMappingEnd :: _ => .nothing
  | .value :: _ => .nothing
  | _ => .node false false

/-- Take an item of a sequence in brackets, or its end. -/
def takeFlowItem : List Token → Step
  | .flowSequenceEnd :: rest => ([.collectionEnd], [], rest)
  | .key :: rest =>
      ([.mappingStart .none], [.pairKey, .pairValue, .close, .flowItems false],
        rest)
  | tokens => ([], [.node false false, .flowItems false], tokens)

/-- Take an entry of a mapping in braces, or its end. -/
def takeFlowEntry : List Token → Step
  | .flowMappingEnd :: rest => ([.collectionEnd], [], rest)
  | .key :: rest => ([], [flowNode rest, .flowValue, .flowEntries false], rest)
  | tokens => ([], [.node false false, .nothing, .flowEntries false], tokens)

/-- Reach a goal, as far as the next tokens tell. -/
def take (handles : Handles) : Goal → List Token → Option Step
  | .node allowsBlock allowsDashes, tokens =>
      takeNode handles allowsBlock allowsDashes tokens
  | .nothing, tokens => some ([.empty], [], tokens)
  | .close, tokens => some ([.collectionEnd], [], tokens)
  | .blockItems, .blockEntry :: rest =>
      some ([], [blockNode false rest, .blockItems], rest)
  | .blockItems, .blockEnd :: rest => some ([.collectionEnd], [], rest)
  | .blockItems, _ => none
  | .dashItems, .blockEntry :: rest =>
      some ([], [blockNode false rest, .dashItems], rest)
  | .dashItems, tokens => some ([.collectionEnd], [], tokens)
  | .blockEntries, .key :: rest =>
      some ([], [blockNode true rest, .blockValue, .blockEntries], rest)
  | .blockEntries, .blockEnd :: rest => some ([.collectionEnd], [], rest)
  | .blockEntries, _ => none
  | .blockValue, .value :: rest => some ([], [blockNode true rest], rest)
  | .blockValue, tokens => some ([.empty], [], tokens)
  | .flowItems true, tokens => some (takeFlowItem tokens)
  | .flowItems false, .flowSequenceEnd :: rest =>
      some ([.collectionEnd], [], rest)
  | .flowItems false, .flowEntry :: rest => some (takeFlowItem rest)
  | .flowItems false, _ => none
  | .pairKey, .value :: rest => some ([.empty], [], rest)
  | .pairKey, .flowEntry :: rest => some ([.empty], [], rest)
  | .pairKey, .flowSequenceEnd :: rest => some ([.empty], [], rest)
  | .pairKey, tokens => some ([], [.node false false], tokens)
  | .pairValue, .value :: rest => some ([], [flowNode rest], rest)
  | .pairValue, tokens => some ([.empty], [], tokens)
  | .flowEntries true, tokens => some (takeFlowEntry tokens)
  | .flowEntries false, .flowMappingEnd :: rest =>
      some ([.collectionEnd], [], rest)
  | .flowEntries false, .flowEntry :: rest => some (takeFlowEntry rest)
  | .flowEntries false, _ => none
  | .flowValue, .value :: rest => some ([], [flowNode rest], rest)
  | .flowValue, tokens => some ([.empty], [], tokens)

/-- Reach several goals in order, with at most `fuel` steps. The result is the
events behind the given ones, which have the last first, and the remaining
tokens. -/
def run (handles : Handles) :
    (fuel : Nat) →
    (goals : List Goal) →
    (tokens : List Token) →
    (reversed : List Event) →
    Option (List Event × List Token)
  | _, [], tokens, reversed => some (reversed.reverse, tokens)
  | 0, _, _, _ => none
  | fuel + 1, goal :: goals, tokens, reversed => do
      let (events, further, tokens) ← take handles goal tokens
      run handles fuel (further ++ goals) tokens (events.reverse ++ reversed)

end Goal

/-- The directives at the start of a document. There is at most one version,
which must be a known one, and at most one expansion of a handle. -/
def takeDirectives (hasVersion : Bool) (handles : Handles) :
    List Token → Option (Handles × List Token)
  | .directive (.version major minor) :: rest =>
      if hasVersion || major ≠ 1 || (minor ≠ 1 && minor ≠ 2) then none
      else takeDirectives true handles rest
  | .directive (.handle handle expansion) :: rest =>
      if (handles.lookup handle).isSome then none
      else takeDirectives hasVersion ((handle, expansion) :: handles) rest
  | tokens => some (handles, tokens)

/-- What a document holds behind its directives and its start. -/
def documentContent : List Token → Goal
  | [] => .nothing
  | .directive _ :: _ => .nothing
  | .documentStart :: _ => .nothing
  | .documentEnd :: _ => .nothing
  | _ => .node true false

/-- The handles and the content of a document, and the tokens of its content. A
document needs a mark at its start only behind directives. -/
def openDocument (tokens : List Token) : Option (Handles × Goal × List Token) :=
  match tokens with
  | .directive _ :: _ => do
      let (handles, rest) ← takeDirectives false [] tokens
      match rest with
      | .documentStart :: rest =>
          some (handles ++ .standard, documentContent rest, rest)
      | _ => none
  | .documentStart :: rest => some (.standard, documentContent rest, rest)
  | _ => some (.standard, .node true false, tokens)

/-- The events of the only document that tokens form; none if there is no
document. There is no result where the tokens form something else. -/
def Event.ofTokens? (tokens : List Token) : Option (List Event) := do
  if tokens.isEmpty then return []
  let (handles, goal, rest) ← openDocument tokens
  let (events, rest) ← Goal.run handles (8 * rest.length + 8) [goal] rest []
  let rest := rest.dropWhile fun
    | .documentEnd => true
    | _ => false
  if rest.isEmpty then some events else none

end Yaml
end QueryLowering

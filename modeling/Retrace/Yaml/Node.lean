import Retrace.Yaml.Kind
import Retrace.Yaml.Token

/-!
# Nodes of YAML texts

What tokens make (the parser and composer of `yaml.safe_load`): scalars, sequences and mappings,
each with a tag. A node without a tag of its own gets one from what it is and, for a plain scalar,
from what it looks like. An alias stands for the node that its anchor marks, also inside of that
node, so nodes are kept by number in a graph.

* `Node`, `Graph`, `nodeOf`: the graph of a text and the number of its node, nothing if the text has
  no node.

Main statement: `getElem?_graph_add`, an added node has the number that it is given.
-/

namespace Retrace.Yaml

/-- A node with its tag. What is in a collection is given by number. -/
inductive Node
  | scalar (tag text : Text)
  | sequence (tag : Text) (items : List Nat)
  | mapping (tag : Text) (entries : List (Nat × Nat))

/-- Nodes by number. -/
abbrev Graph := Array Node

/-- A tag that every text may use. -/
def coreTag (name : String) : Text := ("tag:yaml.org,2002:" ++ name).toList

/-- The tag of a kind of scalars. -/
def Kind.tag : Kind → Text
  | .null => coreTag "null"
  | .bool => coreTag "bool"
  | .int => coreTag "int"
  | .float => coreTag "float"
  | .moment => coreTag "timestamp"
  | .merge => coreTag "merge"
  | .value => coreTag "value"
  | .str => coreTag "str"

/-- The tag of a plain scalar. -/
def tagOfPlain (t : Text) : Text := (kindOf t).tag

namespace Node

/-- The node where nothing is written. -/
def empty : Node := .scalar (tagOfPlain []) []

/-- The tag of a node. -/
def tag : Node → Text
  | .scalar tag _ => tag
  | .sequence tag _ => tag
  | .mapping tag _ => tag

end Node

/-- The tokens that are left, the nodes so far, and the numbers of those that anchors mark. -/
structure Source where
  tokens : List Token
  graph : Graph
  anchors : List (Text × Nat)

/-- The handles of tags with what they stand for. -/
abbrev Handles := List (Text × Text)

/-- The handles that every text may use. -/
def coreHandles : Handles := [(['!'], ['!']), (['!', '!'], coreTag "")]

/-- What may stand before the content of a node: an anchor and a tag, in either order. -/
structure Properties where
  anchor : Option Text
  tag : Option (Option Text × Text)

namespace Source

/-- The source after its first token. -/
def next (s : Source) : Source := { s with tokens := s.tokens.drop 1 }

/-- Whether the first token is one of some. -/
def sees (s : Source) (tokens : List Token) : Bool := s.tokens.head?.any tokens.contains

/-- The properties that the source starts with, and the source after them. -/
def properties (s : Source) : Properties × Source :=
  match s.tokens with
  | .anchor name :: .tag handle suffix :: rest =>
    (⟨some name, some (handle, suffix)⟩, { s with tokens := rest })
  | .tag handle suffix :: .anchor name :: rest =>
    (⟨some name, some (handle, suffix)⟩, { s with tokens := rest })
  | .anchor name :: rest => (⟨some name, none⟩, { s with tokens := rest })
  | .tag handle suffix :: rest => (⟨none, some (handle, suffix)⟩, { s with tokens := rest })
  | _ => (⟨none, none⟩, s)

/-- A fault at the first token: its own, if it is one that cannot be read, or another. -/
def faultOr (s : Source) (other : Fault) : Fault :=
  match s.tokens with
  | .unreadable fault :: _ => fault
  | _ => other

/-- The number of a new node, and the source with it. -/
def add (s : Source) (node : Node) : Nat × Source :=
  (s.graph.size, { s with graph := s.graph.push node })

/-- An added node has the number that it is given. -/
theorem getElem?_graph_add (s : Source) (node : Node) :
    (s.add node).2.graph[(s.add node).1]? = some node := by simp [add]

/-- The number of a node whose content is yet to come, with the anchor that marks it. -/
def reserve (s : Source) (anchor : Option Text) : Except Fault (Nat × Source) :=
  let (number, s) := s.add .empty
  match anchor with
  | none => .ok (number, s)
  | some name =>
    if s.anchors.any (·.1 == name) then .error (.repeatedAnchor name)
    else .ok (number, { s with anchors := (name, number) :: s.anchors })

/-- The source with a node in the place of a number. -/
def fill (s : Source) (number : Nat) (node : Node) : Source :=
  { s with graph := s.graph.setIfInBounds number node }

end Source

/-- A tag without its handle; the tag of a single exclamation mark is none. -/
def fullTag (handles : Handles) : Option (Option Text × Text) → Except Fault (Option Text)
  | none => .ok none
  | some (none, suffix) => .ok (some suffix)
  | some (some handle, suffix) =>
    match handles.find? (·.1 == handle) with
    | some entry => .ok (some (entry.2 ++ suffix))
    | none => .error .tag

/-- A tag, or another for a node that has none of its own. -/
def tagOr (tag : Option Text) (other : Text) : Text :=
  match tag with
  | none => other
  | some tag => if tag = ['!'] then other else tag

/-- The content of a node where none is written: that of an empty scalar, if the node has an anchor
or a tag. -/
def emptyContent (properties : Properties) (tag : Option Text) (s : Source) :
    Except Fault (Node × Source) :=
  if properties.anchor.isSome || tag.isSome then .ok (.scalar (tagOr tag (tagOfPlain [])) [], s)
  else .error (s.faultOr .nodeMissing)

/-- Where a node stands: whether it may be a block, and whether the entries of a sequence need no
indentation. -/
structure Place where
  block : Bool
  indentless : Bool

mutual

/-- The node that a source starts with, and the source after it. -/
def node (handles : Handles) : Nat → Place → Source → Except Fault (Nat × Source)
  | 0, _, _ => .error .nodeMissing
  | fuel + 1, place, s =>
    match s.tokens with
    | .alias name :: rest =>
      match s.anchors.find? (·.1 == name) with
      | some entry => .ok (entry.2, { s with tokens := rest })
      | none => .error (.unknownAlias name)
    | _ => do
      let (properties, s) := s.properties
      let tag ← fullTag handles properties.tag
      let (number, s) ← s.reserve properties.anchor
      let (content, s) ← content handles fuel place properties tag s
      .ok (number, s.fill number content)

/-- The content of a node, and the source after it. -/
def content (handles : Handles) : Nat → Place → Properties → Option Text → Source →
    Except Fault (Node × Source)
  | 0, _, _, _, _ => .error .nodeMissing
  | fuel + 1, place, properties, tag, s =>
    let sequence (found : List Nat × Source) : Node × Source :=
      (.sequence (tagOr tag (coreTag "seq")) found.1, found.2)
    let mapping (found : List (Nat × Nat) × Source) : Node × Source :=
      (.mapping (tagOr tag (coreTag "map")) found.1, found.2)
    match s.tokens with
    | .scalar text plain :: _ =>
      let other := if plain || tag.isSome then tagOfPlain text else coreTag "str"
      .ok (.scalar (tagOr tag other) text, s.next)
    | .flowSequenceStart :: _ => (flowItems handles fuel true [] s.next).map sequence
    | .flowMappingStart :: _ => (flowEntries handles fuel true [] s.next).map mapping
    | token :: _ =>
      if token = .entryMark ∧ place.indentless then
        (looseItems handles fuel [] s).map sequence
      else if token = .sequenceStart ∧ place.block then
        (blockItems handles fuel [] s.next).map sequence
      else if token = .mappingStart ∧ place.block then
        (blockEntries handles fuel [] s.next).map mapping
      else emptyContent properties tag s
    | [] => emptyContent properties tag s

/-- A node, or an empty one where one of some tokens comes first. -/
def nodeUnless (handles : Handles) (ends : List Token) (place : Place) :
    Nat → Source → Except Fault (Nat × Source)
  | 0, _ => .error .nodeMissing
  | fuel + 1, s => if s.sees ends then .ok (s.add .empty) else node handles fuel place s

/-- The rest of the items of an indented sequence. -/
def blockItems (handles : Handles) : Nat → List Nat → Source → Except Fault (List Nat × Source)
  | 0, _, _ => .error .collectionUnfinished
  | fuel + 1, taken, s =>
    match s.tokens with
    | .entryMark :: _ => do
      let (item, s) ← nodeUnless handles [.entryMark, .blockEnd] ⟨true, false⟩ fuel s.next
      blockItems handles fuel (taken ++ [item]) s
    | .blockEnd :: _ => .ok (taken, s.next)
    | _ => .error (s.faultOr .collectionUnfinished)

/-- The rest of the items of a sequence that is not indented. -/
def looseItems (handles : Handles) : Nat → List Nat → Source → Except Fault (List Nat × Source)
  | 0, _, _ => .error .collectionUnfinished
  | fuel + 1, taken, s =>
    match s.tokens with
    | .entryMark :: _ => do
      let (item, s) ←
        nodeUnless handles [.entryMark, .key, .value, .blockEnd] ⟨true, false⟩ fuel s.next
      looseItems handles fuel (taken ++ [item]) s
    | _ => .ok (taken, s)

/-- The rest of the entries of an indented mapping. -/
def blockEntries (handles : Handles) : Nat → List (Nat × Nat) → Source →
    Except Fault (List (Nat × Nat) × Source)
  | 0, _, _ => .error .collectionUnfinished
  | fuel + 1, taken, s =>
    match s.tokens with
    | .key :: _ => do
      let ends : List Token := [.key, .value, .blockEnd]
      let (key, s) ← nodeUnless handles ends ⟨true, true⟩ fuel s.next
      let (value, s) ←
        if s.sees [.value] then nodeUnless handles ends ⟨true, true⟩ fuel s.next
        else .ok (s.add .empty)
      blockEntries handles fuel (taken ++ [(key, value)]) s
    | .blockEnd :: _ => .ok (taken, s.next)
    | _ => .error (s.faultOr .collectionUnfinished)

/-- The rest of the items of a sequence in brackets. A key makes an item a mapping of one entry. -/
def flowItems (handles : Handles) : Nat → Bool → List Nat → Source →
    Except Fault (List Nat × Source)
  | 0, _, _, _ => .error .collectionUnfinished
  | fuel + 1, first, taken, s =>
    if s.sees [.flowSequenceEnd] then .ok (taken, s.next)
    else if !first && !s.sees [.comma] then .error (s.faultOr .collectionUnfinished)
    else
      let s := if first then s else s.next
      if s.sees [.flowSequenceEnd] then .ok (taken, s.next)
      else if s.sees [.key] then do
        let (entry, s) ← flowEntry handles [.comma, .flowSequenceEnd] fuel s.next
        let (item, s) := s.add (.mapping (coreTag "map") [entry])
        flowItems handles fuel false (taken ++ [item]) s
      else do
        let (item, s) ← node handles fuel ⟨false, false⟩ s
        flowItems handles fuel false (taken ++ [item]) s

/-- The rest of the entries of a mapping in brackets. A node that is no key has an empty value. -/
def flowEntries (handles : Handles) : Nat → Bool → List (Nat × Nat) → Source →
    Except Fault (List (Nat × Nat) × Source)
  | 0, _, _, _ => .error .collectionUnfinished
  | fuel + 1, first, taken, s =>
    if s.sees [.flowMappingEnd] then .ok (taken, s.next)
    else if !first && !s.sees [.comma] then .error (s.faultOr .collectionUnfinished)
    else
      let s := if first then s else s.next
      if s.sees [.flowMappingEnd] then .ok (taken, s.next)
      else if s.sees [.key] then do
        let (entry, s) ← flowEntry handles [.comma, .flowMappingEnd] fuel s.next
        flowEntries handles fuel false (taken ++ [entry]) s
      else do
        let (key, s) ← node handles fuel ⟨false, false⟩ s
        let (value, s) := s.add .empty
        flowEntries handles fuel false (taken ++ [(key, value)]) s

/-- The entry of a mapping in brackets after the mark of its key; `ends` may follow an entry. -/
def flowEntry (handles : Handles) (ends : List Token) : Nat → Source →
    Except Fault ((Nat × Nat) × Source)
  | 0, _ => .error .collectionUnfinished
  | fuel + 1, s => do
    let (key, s) ← nodeUnless handles (.value :: ends) ⟨false, false⟩ fuel s
    let (value, s) ←
      if s.sees [.value] then nodeUnless handles ends ⟨false, false⟩ fuel s.next
      else .ok (s.add .empty)
    .ok ((key, value), s)

end

/-- The handles that directives declare, and the tokens after them. -/
def declaredHandles : Bool → Handles → List Token → Except Fault (Handles × List Token)
  | versioned, handles, .directive (.version major) :: rest =>
    if versioned || major != 1 then .error .directive else declaredHandles true handles rest
  | versioned, handles, .directive (.tagHandle handle leading) :: rest =>
    if handles.any (·.1 == handle) then .error .directive
    else declaredHandles versioned ((handle, leading) :: handles) rest
  | versioned, handles, .directive .other :: rest => declaredHandles versioned handles rest
  | _, handles, tokens => .ok (handles ++ coreHandles, tokens)

/-- Whether a token starts or ends a document. -/
def isDocumentToken : Token → Bool
  | .directive _ => true
  | .documentStart => true
  | .documentEnd => true
  | _ => false

/-- The graph and the node of a document from its content on, and the tokens after it. -/
def documentNode (handles : Handles) (tokens : List Token) :
    Except Fault ((Graph × Nat) × List Token) := do
  let (found, s) ← node handles (4 * tokens.length + 4) ⟨true, false⟩ ⟨tokens, #[], []⟩
  .ok ((s.graph, found), s.tokens)

/-- The graph and the node of the first document, nothing without one, and the tokens after it. -/
def firstDocument (tokens : List Token) : Except Fault (Option (Graph × Nat) × List Token) :=
  match tokens with
  | [] => .ok (none, [])
  | .directive _ :: _ => marked tokens
  | .documentStart :: _ => marked tokens
  | _ => do
    let (found, rest) ← documentNode coreHandles tokens
    .ok (some found, rest)
where
  /-- The same for a document whose start is marked. -/
  marked (tokens : List Token) : Except Fault (Option (Graph × Nat) × List Token) := do
    let (handles, rest) ← declaredHandles false [] tokens
    match rest with
    | .documentStart :: rest =>
      if rest.head?.all isDocumentToken then .ok (some (#[.empty], 0), rest)
      else
        let (found, rest) ← documentNode handles rest
        .ok (some found, rest)
    | .unreadable fault :: _ => .error fault
    | _ => .error .documentStartMissing

/-- The graph and the node of a text, nothing if the text has none. A text has one document at
most. -/
def nodeOf (t : Text) : Except Fault (Option (Graph × Nat)) := do
  let (found, rest) ← firstDocument (← tokensOf t)
  match rest.dropWhile (· == .documentEnd) with
  | [] => .ok found
  | .unreadable fault :: _ => .error fault
  | _ => .error .severalDocuments

end Retrace.Yaml

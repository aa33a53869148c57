import Retrace.Yaml.Datum
import Retrace.Yaml.Merge
import Retrace.Yaml.Value

/-!
# Building data from nodes

This is the constructor of `yaml.safe_load`. The value of a scalar is made when it is met. The value
of a collection is there at once and filled later, in the order in which collections are met, so
that it may hold itself; a fault in what it holds is told only then. Every node has one value.

* `Builder.make`: the value of a node;
* `Builder.fill`: what a collection holds;
* `Datum.ofText`: the value of a text.

Main statement: `make_again`, a node whose value was made has that value.
-/

namespace Retrace.Yaml

/-- The kinds of collections. -/
inductive Shape
  | list
  | table
  | set
  | pairs
  deriving DecidableEq

/-- The collections that tags stand for. -/
def shapes : List (Text × Shape) :=
  [(coreTag "seq", .list), (coreTag "map", .table), (coreTag "set", .set), (coreTag "omap", .pairs),
    (coreTag "pairs", .pairs)]

/-- The kind of collection that a tag stands for. -/
def shapeOf? (tag : Text) : Option Shape := (shapes.find? (·.1 = tag)).map (·.2)

/-- A collection of a kind that holds nothing. -/
def Shape.empty : Shape → Datum
  | .list => .list []
  | .table => .table []
  | .set => .other false
  | .pairs => .other false

/-- A value while data are built: a collection is given by the number of its node. -/
inductive Built
  | plain (datum : Datum)
  | collection (shape : Shape) (number : Nat)

/-- The key that a value is; a collection is none. -/
def Built.key? : Built → Option Datum
  | .plain datum => some datum
  | .collection .. => none

/-- What a collection holds. -/
inductive Content
  | items (values : List Built)
  | entries (values : List (Datum × Built))
  /-- Something without use here, and whether there is any. -/
  | other (present : Bool)

/-! ### Scalars -/

/-- The text of a scalar, or of the default value of a mapping. -/
def scalarText (graph : Graph) : Nat → Nat → Except Fault Text
  | 0, _ => .error (.scalar .endless)
  | fuel + 1, number =>
    match graph[number]? with
    | some (.scalar _ text) => .ok text
    | some (.mapping _ entries) =>
      match entries.find? fun entry => tagAt graph entry.1 = coreTag "value" with
      | some entry => scalarText graph fuel entry.2
      | none => .error .wrongKind
    | _ => .error .wrongKind

/-- The datum of a text with the tag of a scalar. -/
def scalarDatum (tag text : Text) : Except Fault Datum :=
  if tag = coreTag "str" then .ok (.str text)
  else if tag = coreTag "null" then .ok .null
  else if tag = coreTag "bool" then ((truthValue text).map .bool).mapError .scalar
  else if tag = coreTag "int" then ((wholeNumber text).map .int).mapError .scalar
  else if tag = coreTag "float" then ((decimal text).map .float).mapError .scalar
  else if tag = coreTag "timestamp" then ((momentOf text).map .moment).mapError .scalar
  else if tag = coreTag "binary" then ((Base64.decodeLoose text).map .bytes).mapError .base64
  else .error (.unknownTag tag)

/-- The tags of scalars. -/
def scalarTags : List Text :=
  ["str", "null", "bool", "int", "float", "timestamp", "binary"].map coreTag

/-- The datum of a node that is no collection. A moment is read from a scalar only. -/
def scalarAt (graph : Graph) (number : Nat) : Except Fault Datum :=
  let tag := tagAt graph number
  if !scalarTags.contains tag then .error (.unknownTag tag)
  else do
    let text ← scalarText graph (graph.size + 1) number
    if tag = coreTag "timestamp" && isMapping graph number then .error (.scalar .momentOfMapping)
    else scalarDatum tag text

/-! ### Building -/

/-- How far data are built: the nodes, their values, what the collections among them hold, the
collections that wait to be filled with the latest first, and the number of all entries. -/
structure Builder where
  graph : Graph
  values : Array (Option Built)
  contents : Array (Option Content)
  waiting : List Nat
  entryCount : Nat

namespace Builder

/-- Where nothing is built yet. -/
def start (graph : Graph) : Builder :=
  ⟨graph, .replicate graph.size none, .replicate graph.size none, [], Yaml.entryCount graph⟩

/-- The value that a node was given. -/
def value? (b : Builder) (number : Nat) : Option Built := b.values[number]?.join

/-- A node given a value. -/
def keep (b : Builder) (number : Nat) (value : Built) : Builder :=
  { b with values := b.values.setIfInBounds number (some value) }

/-- A collection that waits to be filled. -/
def enqueue (b : Builder) (number : Nat) : Builder := { b with waiting := number :: b.waiting }

/-- A collection given what it holds. -/
def hold (b : Builder) (number : Nat) (content : Content) : Builder :=
  { b with contents := b.contents.setIfInBounds number (some content) }

/-- The value of a node, made if there is none. -/
def make (b : Builder) (number : Nat) : Except Fault (Built × Builder) :=
  match b.value? number with
  | some value => .ok (value, b)
  | none =>
    match shapeOf? (tagAt b.graph number) with
    | some shape =>
      let value := .collection shape number
      .ok (value, (b.keep number value).enqueue number)
    | none =>
      (scalarAt b.graph number).map fun datum => (.plain datum, b.keep number (.plain datum))

theorem value?_keep {b : Builder} {number : Nat} (h : number < b.values.size) (value : Built) :
    (b.keep number value).value? number = some value := by
  simp [value?, keep, h]

/-- A node whose value was made has that value. -/
theorem make_again {b after : Builder} {number : Nat} {value : Built}
    (hsize : number < b.values.size) (h : b.make number = .ok (value, after)) :
    after.make number = .ok (value, after) := by
  have hmade : after.value? number = some value := by
    unfold make at h
    split at h
    · rename_i found hfound
      cases h
      exact hfound
    · split at h
      · cases h
        exact value?_keep hsize _
      · cases hscalar : scalarAt b.graph number with
        | error fault => simp [hscalar, Except.map] at h
        | ok datum =>
          rw [hscalar] at h
          cases h
          exact value?_keep hsize _
  rw [make, hmade]

/-- The values of nodes. -/
def makeAll (b : Builder) : List Nat → Except Fault (List Built × Builder)
  | [] => .ok ([], b)
  | number :: rest => do
    let (value, b) ← b.make number
    let (values, b) ← b.makeAll rest
    .ok (value :: values, b)

/-- The entries of a table with those of a mapping set in them. A key may not be a collection. -/
def makeEntries (b : Builder) (done : List (Datum × Built)) :
    List (Nat × Nat) → Except Fault (List (Datum × Built) × Builder)
  | [] => .ok (done, b)
  | (key, value) :: rest => do
    let (key, b) ← b.make key
    match key.key? with
    | none => .error .unhashableKey
    | some key => do
      let (value, b) ← b.make value
      b.makeEntries (Datum.put key value done) rest

/-- The values of pairs made. A pair is a mapping of one entry. -/
def makePairs (b : Builder) : List Nat → Except Fault Builder
  | [] => .ok b
  | number :: rest =>
    match b.graph[number]? with
    | some (.mapping _ [(key, value)]) => do
      let (_, b) ← b.make key
      let (_, b) ← b.make value
      b.makePairs rest
    | _ => .error .notPair

/-- The entries of a table, with those that are merged into it. -/
def makeTable (b : Builder) (number : Nat) : Except Fault (List (Datum × Built) × Builder) := do
  let graph ← flatten b.entryCount b.graph number
  makeEntries { b with graph } [] (entriesAt graph number)

/-- A collection of a kind filled from its node, which has to be of the kind that fits. -/
def fillShape (b : Builder) (shape : Shape) (number : Nat) : Except Fault Builder :=
  match shape, b.graph[number]? with
  | .list, some (.sequence _ items) =>
    (b.makeAll items).map fun (values, b) => b.hold number (.items values)
  | .pairs, some (.sequence _ items) =>
    (b.makePairs items).map fun b => b.hold number (.other !items.isEmpty)
  | .table, some (.mapping ..) =>
    (b.makeTable number).map fun (values, b) => b.hold number (.entries values)
  | .set, some (.mapping ..) =>
    (b.makeTable number).map fun (values, b) => b.hold number (.other !values.isEmpty)
  | _, _ => .error .wrongKind

/-- A collection filled. -/
def fill (b : Builder) (number : Nat) : Except Fault Builder :=
  match b.value? number with
  | some (.collection shape _) => b.fillShape shape number
  | _ => .ok b

/-- All collections filled that wait, and those that come up on the way after them. -/
def fillAll : Nat → Builder → Except Fault Builder
  | 0, b => .ok b
  | fuel + 1, b =>
    if b.waiting.isEmpty then .ok b
    else do
      let b ← b.waiting.reverse.foldlM fill { b with waiting := [] }
      fillAll fuel b

/-- The datum of a value down to a level; below it collections are shown empty. -/
def datumOf (b : Builder) : Nat → Built → Datum
  | _, .plain datum => datum
  | 0, .collection shape _ => shape.empty
  | level + 1, .collection shape number =>
    match b.contents[number]?.join with
    | some (.items values) => .list (values.map (b.datumOf level))
    | some (.entries values) =>
      .table (values.map fun (key, value) => (key, b.datumOf level value))
    | some (.other present) => .other present
    | none => shape.empty

end Builder

/-- The level down to which data are had from a text, for a collection may hold itself. Settings
have no value further down. -/
def datumLevel : Nat := 4

end Yaml

/-- The value of a text. -/
def Datum.ofText (t : Text) : Except Yaml.Fault Datum := do
  match ← Yaml.nodeOf t with
  | none => .ok .null
  | some (graph, root) => do
    let (value, b) ← (Yaml.Builder.start graph).make root
    let b ← b.fillAll (graph.size + 1)
    .ok (b.datumOf Yaml.datumLevel value)

end Retrace

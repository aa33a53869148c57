import Retrace.Yaml.Node

/-!
# Merging mappings

A mapping may name others whose entries are put before its own (`flatten_mapping`), so that its own
count more. Those others are flattened first, and the mark of a default value becomes a plain key on
the way. A mapping may be merged into itself, so all is done step by step on the graph.

* `flatten`: the graph with all that is to be merged into a mapping put into it.
-/

namespace Retrace.Yaml

/-- A node with another tag. -/
def Node.withTag (tag : Text) : Node → Node
  | .scalar _ text => .scalar tag text
  | .sequence _ items => .sequence tag items
  | .mapping _ entries => .mapping tag entries

/-- A mapping with other entries. -/
def Node.withEntries (entries : List (Nat × Nat)) : Node → Node
  | .mapping tag _ => .mapping tag entries
  | node => node

/-- The entries of a node, if it is a mapping. -/
def Node.entries? : Node → Option (List (Nat × Nat))
  | .mapping _ entries => some entries
  | _ => none

/-- The tag of the node of a number. -/
def tagAt (graph : Graph) (number : Nat) : Text := (graph[number]?.map Node.tag).getD []

/-- The entries of the node of a number. -/
def entriesAt (graph : Graph) (number : Nat) : List (Nat × Nat) :=
  (graph[number]?.bind Node.entries?).getD []

/-- Whether the node of a number is a mapping. -/
def isMapping (graph : Graph) (number : Nat) : Bool := (graph[number]?.bind Node.entries?).isSome

/-- The graph with the marks of default values among keys made texts. -/
def nameDefaults (graph : Graph) (entries : List (Nat × Nat)) : Graph :=
  entries.foldl (fun graph entry =>
    if tagAt graph entry.1 = coreTag "value" then
      graph.modify entry.1 (Node.withTag (coreTag "str"))
    else graph) graph

/-- The graph with what is merged into a mapping put before its own entries. Those from a place on
are still to be looked at, and `merged` are to be put before. Of several mappings that are merged at
once the first counts most. -/
def flattenFrom : Nat → Graph → Nat → Nat → List (Nat × Nat) → Except Fault Graph
  | 0, graph, _, _, _ => .ok graph
  | fuel + 1, graph, number, place, merged =>
    let entries := entriesAt graph number
    let passed := (entries.drop place).takeWhile fun entry => tagAt graph entry.1 ≠ coreTag "merge"
    let graph := nameDefaults graph passed
    let place := place + passed.length
    let flattened (graph : Graph) (source : Nat) : Except Fault (Graph × List (Nat × Nat)) :=
      if isMapping graph source then
        (flattenFrom fuel graph source 0 []).map fun graph => (graph, entriesAt graph source)
      else .error .mergeSource
    match entries.drop place with
    | [] => .ok (graph.modify number (Node.withEntries (merged ++ entries)))
    | (_, source) :: rest => do
      let graph := graph.modify number (Node.withEntries (entries.take place ++ rest))
      let (graph, found) ←
        match graph[source]? with
        | some (.sequence _ items) =>
          items.foldlM (fun (graph, found) item =>
            (flattened graph item).map fun (graph, own) => (graph, own ++ found)) (graph, [])
        | _ => flattened graph source
      flattenFrom fuel graph number place (merged ++ found)

/-- The number of entries of all mappings. -/
def entryCount (graph : Graph) : Nat :=
  graph.foldl (fun count node => count + (node.entries?.getD []).length) 0

/-- The graph with all that is to be merged into a mapping put into it; `count` is at least the
number of entries that name a mapping to be merged. -/
def flatten (count : Nat) (graph : Graph) (number : Nat) : Except Fault Graph :=
  flattenFrom (count + 1) graph number 0 []

end Retrace.Yaml

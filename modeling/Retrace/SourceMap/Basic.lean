import Retrace.SourceMap.Mappings

/-!
# Source maps

A source map of version 3, decoded: its sources with the contents that it carries, the names, and
the segments of every generated line.

* `SourceMap.sourcePath?`: a source with the root of the sources before it;
* `SourceMap.contentFor`: the content that the map carries for a source;
* `SourceMap.lastUpTo`: the segment of a line for a column, found by halving the line;
* `SourceMap.find?`: the place in a source of a generated one (`find_entry`, with `bisect_right`).

Main statement: `contentFor_eq_some`.
-/

namespace Retrace

/-- A decoded source map. -/
structure SourceMap where
  version : Int
  sources : List Text
  mappings : Text
  contents : List (Option Text)
  names : List Text
  sourceRoot : Text
  file : Option Text
  lines : List (List Segment)

/-- The place in a source of a generated one; line and column count from zero. -/
structure SourcePlace where
  source : Text
  line : Int
  column : Int
  sourceIndex : Int
  name : Option Text
  deriving DecidableEq

/-- An entry of a list by its index from the start or, if negative, from the end. -/
def entryAt? {α : Type} (entries : List α) (index : Int) : Option α :=
  let fromStart := if index < 0 then index + entries.length else index
  if fromStart < 0 then none else entries[fromStart.toNat]?

namespace SourceMap

/-- A source below the root of the sources. A source that is a URL or starts with a slash stands
for itself. -/
def rooted (sourceRoot source : Text) : Text :=
  if sourceRoot.isEmpty || Text.occursIn "://".toList source || source.head? == some '/' then source
  else Text.dropEndWhile (· = '/') sourceRoot ++ '/' :: source

/-- The source with an index, below the root of the sources. -/
def sourcePath? (m : SourceMap) (index : Int) : Option Text :=
  (entryAt? m.sources index).map (rooted m.sourceRoot)

/-- The content that the map carries for the source with an index. -/
def contentFor (m : SourceMap) (index : Int) : Option Text :=
  if 0 ≤ index then (m.contents[index.toNat]?).join else none

theorem contentFor_eq_some {m : SourceMap} {index : Int} {content : Text} :
    m.contentFor index = some content ↔
      0 ≤ index ∧ m.contents[index.toNat]? = some (some content) := by
  rw [contentFor]
  split
  · rename_i h
    cases hget : m.contents[index.toNat]? with
    | none => simp
    | some entry => simp [h]
  · rename_i h
    simp [h]

/-- How many segments of a sorted line start at or before a column. The line is halved again and
again, and the half that the column is not in is left out. -/
def countUpTo (column : Int) (segments : List Segment) : Nat :=
  match _h : segments.drop (segments.length / 2) with
  | [] => 0
  | s :: after =>
    if column < s.generatedColumn then countUpTo column (segments.take (segments.length / 2))
    else segments.length / 2 + 1 + countUpTo column after
termination_by segments.length
decreasing_by
  · have := congrArg List.length _h
    simp only [List.length_drop, List.length_cons, List.length_take] at *
    omega
  · have := congrArg List.length _h
    simp only [List.length_drop, List.length_cons] at *
    omega

/-- The last segment of a sorted line that starts at or before a column. -/
def lastUpTo (column : Int) (segments : List Segment) : Option Segment :=
  match countUpTo column segments with
  | 0 => none
  | count + 1 => segments[count]?

/-- The first segment of the last line that has one. -/
def lastLineStart (lines : List (List Segment)) : Option Segment :=
  lines.reverse.findSome? List.head?

/-- The segment for a generated place: the last of its line at or before it; without one, the first
segment of the nearest line above that has any. -/
def segmentFor (m : SourceMap) (line column : Int) : Option Segment :=
  if line < 0 ∨ column < 0 then none
  else
    (lastUpTo column (m.lines.getD line.toNat [])).or (lastLineStart (m.lines.take line.toNat))

/-- The name with an index, if the map has it. -/
def nameAt (m : SourceMap) (index : Option Int) : Option Text :=
  index.bind fun i => m.names[i.toNat]?

/-- The place that a segment leads to, or nothing if its source is not in the map. -/
def placeOf? (m : SourceMap) (s : Segment) : Option SourcePlace :=
  (m.sourcePath? s.sourceIndex).map fun source =>
    ⟨source, s.sourceLine, s.sourceColumn, s.sourceIndex, m.nameAt s.nameIndex⟩

/-- Why a place has no answer at all: the segment for it names a source that is not in the map. -/
inductive LookupFault
  | sourceOutOfRange
  deriving DecidableEq

/-- The wording of a fault. -/
def LookupFault.message : LookupFault → String
  | .sourceOutOfRange => "tuple index out of range"

/-- The place in a source of a generated one, if a segment leads there. -/
def find? (m : SourceMap) (line column : Int) : Except LookupFault (Option SourcePlace) :=
  match m.segmentFor line column with
  | none => .ok none
  | some segment =>
    match m.placeOf? segment with
    | some place => .ok (some place)
    | none => .error .sourceOutOfRange

end SourceMap

end Retrace

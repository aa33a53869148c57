import Retrace.SourceMap.Vlq

/-!
# Mappings

The table of a source map: for every line of the generated text the segments that map it to sources.
Lines end at semicolons and segments at commas. A segment is one, four or five numbers, each the
distance from the number before it in its place; the generated column starts anew on every line, the
other four run through the table. A segment of one number maps to nothing and is not kept.

* `Mappings.decode`: the segments of a table (`decode_mappings`), each line in the order of its
  columns;
* `Mappings.encode`: the table of segments (`encode_mappings`).

Main statement: `pairwise_sortByColumn`, the segments of a line stand in the order of their columns.
-/

namespace Retrace

/-- A segment that maps a generated column to a place in a source; all numbers count from zero. -/
structure Segment where
  generatedColumn : Int
  sourceIndex : Int
  sourceLine : Int
  sourceColumn : Int
  nameIndex : Option Int
  deriving DecidableEq

namespace Mappings

/-- Why a table is malformed. -/
inductive Fault
  | number (fault : Vlq.Fault)
  | fieldCount (piece : Text) (line count : Nat)
  | negativeColumn (line : Nat)
  | negativePlace (line : Nat)
  | sourceIndex (index : Int) (line : Nat)
  | nameIndex (index : Int) (line : Nat)
  deriving DecidableEq

/-- The wording of a fault. -/
def Fault.message : Fault → String
  | .number fault => fault.message
  | .fieldCount piece line count =>
    s!"Segment {String.ofList piece.quoted} on line {line} has {count} fields"
  | .negativeColumn line => s!"Negative generated column on line {line}"
  | .negativePlace line => s!"Negative original position on line {line}"
  | .sourceIndex index line => s!"Source index {index} out of range on line {line}"
  | .nameIndex index line => s!"Name index {index} out of range on line {line}"

/-- The number that the wording of a fault would have to write. -/
def Fault.index? : Fault → Option Int
  | .sourceIndex index _ => some index
  | .nameIndex index _ => some index
  | _ => none

/-- How many sources and names there are, where that is known. -/
structure Counts where
  sources : Option Int
  names : Option Int

/-- The numbers that run through a table. -/
structure Carry where
  source : Int
  line : Int
  column : Int
  name : Int

/-- The numbers that a table starts from. -/
def Carry.start : Carry := ⟨0, 0, 0, 0⟩

/-- Whether an index is past a count that is known. -/
def isPast (count : Option Int) (index : Int) : Bool := count.any (· ≤ index)

/-- The numbers after a segment of four. -/
def placeStep (counts : Counts) (lineNumber : Nat) (carry : Carry) (source line column : Int) :
    Except Fault Carry :=
  let carry : Carry :=
    ⟨carry.source + source, carry.line + line, carry.column + column, carry.name⟩
  if carry.source < 0 ∨ carry.line < 0 ∨ carry.column < 0 then .error (.negativePlace lineNumber)
  else if isPast counts.sources carry.source then .error (.sourceIndex carry.source lineNumber)
  else .ok carry

/-- The numbers after the fifth of a segment. -/
def nameStep (counts : Counts) (lineNumber : Nat) (carry : Carry) (name : Int) :
    Except Fault Carry :=
  let index := carry.name + name
  if index < 0 ∨ isPast counts.names index then .error (.nameIndex index lineNumber)
  else .ok ⟨carry.source, carry.line, carry.column, index⟩

/-- What a piece of a line makes of the column and the numbers carried: a segment or none, and the
column and numbers after it. -/
def pieceStep (counts : Counts) (lineNumber : Nat) (column : Int) (carry : Carry) (piece : Text) :
    Except Fault (Option Segment × Int × Carry) :=
  match Vlq.decode piece with
  | .error fault => .error (.number fault)
  | .ok fields =>
    let count := fields.length
    if count ≠ 1 ∧ count ≠ 4 ∧ count ≠ 5 then .error (.fieldCount piece lineNumber count)
    else
      let column := column + fields.headD 0
      if column < 0 then .error (.negativeColumn lineNumber)
      else
        match fields with
        | [_, source, line, col] => do
          let carry ← placeStep counts lineNumber carry source line col
          .ok (some ⟨column, carry.source, carry.line, carry.column, none⟩, column, carry)
        | [_, source, line, col, name] => do
          let carry ← placeStep counts lineNumber carry source line col
          let carry ← nameStep counts lineNumber carry name
          let segment := ⟨column, carry.source, carry.line, carry.column, some carry.name⟩
          .ok (some segment, column, carry)
        | _ => .ok (none, column, carry)

/-- The segments of the pieces of a line, and the numbers after them. -/
def lineSteps (counts : Counts) (lineNumber : Nat) (column : Int) (carry : Carry) :
    List Text → Except Fault (List Segment × Carry)
  | [] => .ok ([], carry)
  | piece :: rest =>
    if piece.isEmpty then lineSteps counts lineNumber column carry rest
    else do
      let (segment, column, carry) ← pieceStep counts lineNumber column carry piece
      let (segments, carry) ← lineSteps counts lineNumber column carry rest
      .ok (segment.toList ++ segments, carry)

/-- Segments in the order of their columns; those of one column keep theirs. -/
def sortByColumn (segments : List Segment) : List Segment :=
  segments.mergeSort fun a b => a.generatedColumn ≤ b.generatedColumn

/-- The segments of the lines from a number on. -/
def tableSteps (counts : Counts) (lineNumber : Nat) (carry : Carry) :
    List Text → Except Fault (List (List Segment))
  | [] => .ok []
  | line :: rest => do
    let (segments, carry) ← lineSteps counts lineNumber 0 carry (line.pieces ',')
    let lines ← tableSteps counts (lineNumber + 1) carry rest
    .ok (sortByColumn segments :: lines)

/-- The segments of a table, line by line. -/
def decode (counts : Counts) (table : Text) : Except Fault (List (List Segment)) :=
  tableSteps counts 0 .start (table.pieces ';')

/-- In a line no segment stands before one of a lesser column. -/
theorem pairwise_sortByColumn (segments : List Segment) :
    (sortByColumn segments).Pairwise fun a b => a.generatedColumn ≤ b.generatedColumn := by
  let le (a b : Segment) : Bool := a.generatedColumn ≤ b.generatedColumn
  have htrans : ∀ a b c : Segment, le a b → le b c → le a c := fun a b c hab hbc => by
    simp only [le, decide_eq_true_eq] at *
    omega
  have htotal : ∀ a b : Segment, le a b || le b a := fun a b => by
    simp only [le, Bool.or_eq_true, decide_eq_true_eq]
    omega
  exact (List.pairwise_mergeSort htrans htotal segments).imp fun hle => by simpa [le] using hle

/-- The text of the numbers of a segment after its column, and what they make of the numbers
before. -/
def encodeFields : List Int → List Int → Text × List Int
  | before :: others, value :: values =>
    let (text, after) := encodeFields others values
    (Vlq.encode (value - before) ++ text, value :: after)
  | carry, _ => ([], carry)

/-- The texts of the segments of a line; a number that is not there is skipped. -/
def encodeLine (column : Int) (carry : List Int) :
    List (List (Option Int)) → Except Nat (List Text × List Int)
  | [] => .ok ([], carry)
  | segment :: rest =>
    let values := segment.filterMap id
    if values.length ≠ 1 ∧ values.length ≠ 4 ∧ values.length ≠ 5 then .error values.length
    else do
      let next := values.headD 0
      let (text, carry) := encodeFields carry (values.drop 1)
      let (texts, carry) ← encodeLine next carry rest
      .ok ((Vlq.encode (next - column) ++ text) :: texts, carry)

/-- The texts of lines of segments. -/
def encodeLines (carry : List Int) :
    List (List (List (Option Int))) → Except Nat (List Text)
  | [] => .ok []
  | line :: rest => do
    let (texts, carry) ← encodeLine 0 carry line
    let lines ← encodeLines carry rest
    .ok (Text.joined [','] texts :: lines)

/-- The table of lines of segments, or the count of numbers of one that is no segment. -/
def encode (lines : List (List (List (Option Int)))) : Except Nat Text :=
  (encodeLines [0, 0, 0, 0] lines).map (Text.joined [';'])

/-- The numbers of a segment. -/
def segmentFields (s : Segment) : List (Option Int) :=
  [some s.generatedColumn, some s.sourceIndex, some s.sourceLine, some s.sourceColumn, s.nameIndex]

end Mappings

end Retrace

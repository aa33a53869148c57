import Mathlib.Algebra.Group.Basic
import Mathlib.Algebra.Group.Int.Defs
import Mathlib.Data.List.Forall2
import Retrace.Proofs.Outcome
import Retrace.Proofs.Text.Pieces
import Retrace.SourceMap.Mappings

/-!
# Tables read and written

The writer and the reader of a table each run through it with numbers of their own: the column of
the line, the place in the sources, and the name. Both stand at the same numbers after every
segment (`Carry.after`), so the differences that the one writes are those that the other adds up.

* `Segment.Valid`: the numbers of a segment count from zero, and its indexes are in range;
* `segmentOf?`, `Absolute`: the segment that a row of numbers stands for;
* `StablySorted`: segments in the order of their columns, those of one column as they were;
* `Advance`: all that the numbers of a piece can make of the numbers before it;
* `valid_of_decode`: whatever is read is valid and in order.

Main statement: `decode_encode_lines`, the table of a list of lines is read as these lines, and a
table that was read keeps its meaning when it is written anew.
-/

namespace Retrace

/-- Whether the numbers of a segment count from zero and its indexes are below their counts. -/
structure Segment.Valid (counts : Mappings.Counts) (s : Segment) : Prop where
  generatedColumn : 0 ≤ s.generatedColumn
  sourceIndex : 0 ≤ s.sourceIndex
  sourceLine : 0 ≤ s.sourceLine
  sourceColumn : 0 ≤ s.sourceColumn
  source_lt : ∀ count ∈ counts.sources, s.sourceIndex < count
  nameIndex : ∀ name ∈ s.nameIndex, 0 ≤ name
  name_lt : ∀ name ∈ s.nameIndex, ∀ count ∈ counts.names, name < count

instance (counts : Mappings.Counts) (s : Segment) : Decidable (s.Valid counts) :=
  decidable_of_iff (0 ≤ s.generatedColumn ∧ 0 ≤ s.sourceIndex ∧ 0 ≤ s.sourceLine ∧
      0 ≤ s.sourceColumn ∧ (∀ count ∈ counts.sources, s.sourceIndex < count) ∧
      (∀ name ∈ s.nameIndex, 0 ≤ name) ∧ ∀ name ∈ s.nameIndex, ∀ count ∈ counts.names, name < count)
    ⟨fun ⟨h1, h2, h3, h4, h5, h6, h7⟩ => ⟨h1, h2, h3, h4, h5, h6, h7⟩,
      fun ⟨h1, h2, h3, h4, h5, h6, h7⟩ => ⟨h1, h2, h3, h4, h5, h6, h7⟩⟩

namespace Mappings

/-- The segment that a row of numbers stands for; a column alone stands for none. -/
def segmentOf? : List (Option Int) → Option Segment
  | [some column, some source, some line, some col] => some ⟨column, source, line, col, none⟩
  | [some column, some source, some line, some col, name] => some ⟨column, source, line, col, name⟩
  | _ => none

/-- A row of numbers that is a segment: a column alone, or a column, a place and perhaps a name. -/
inductive Absolute (counts : Counts) : List (Option Int) → Prop
  | column {column : Int} (h : 0 ≤ column) : Absolute counts [some column]
  | segment {fields : List (Option Int)} {s : Segment} (hs : segmentOf? fields = some s)
      (h : s.Valid counts) : Absolute counts fields

theorem absolute_iff {counts : Counts} {fields : List (Option Int)} :
    Absolute counts fields ↔
      (∃ column ∈ fields.head?.join, fields = [some column] ∧ 0 ≤ column) ∨
        ∃ s ∈ segmentOf? fields, s.Valid counts := by
  constructor
  · rintro (⟨h⟩ | ⟨hs, h⟩)
    · exact .inl ⟨_, rfl, rfl, h⟩
    · exact .inr ⟨_, hs, h⟩
  · rintro (⟨column, -, rfl, h⟩ | ⟨s, hs, h⟩)
    · exact .column h
    · exact .segment hs h

instance (counts : Counts) (fields : List (Option Int)) : Decidable (Absolute counts fields) :=
  decidable_of_iff _ absolute_iff.symm

/-- Segments in the order of their columns, those of one column in the order that they had. -/
structure StablySorted (before after : List Segment) : Prop where
  sorted : after.Pairwise fun a b => a.generatedColumn ≤ b.generatedColumn
  stable : ∀ column, after.filter (·.generatedColumn = column) =
    before.filter (·.generatedColumn = column)

/-! ### Sorting -/

theorem stablySorted_sortByColumn (segments : List Segment) :
    StablySorted segments (sortByColumn segments) := by
  refine ⟨pairwise_sortByColumn segments, fun column => ?_⟩
  have hperm := (List.mergeSort_perm segments fun a b =>
    a.generatedColumn ≤ b.generatedColumn).filter (·.generatedColumn = column)
  -- a run of one column is in order, so it stays a part of the sorted list
  have hsub : (segments.filter (·.generatedColumn = column)).Sublist (sortByColumn segments) := by
    refine List.sublist_mergeSort (fun a b c hab hbc => ?_) (fun a b => ?_) ?_ List.filter_sublist
    · simp only [decide_eq_true_eq] at *
      omega
    · simp only [Bool.or_eq_true, decide_eq_true_eq]
      omega
    · refine List.pairwise_of_forall_mem_list fun a ha b hb => ?_
      simp only [List.mem_filter, decide_eq_true_eq] at ha hb
      simp [ha.2, hb.2]
  have hsub' := hsub.filter (·.generatedColumn = column)
  rw [List.filter_filter] at hsub'
  simp only [Bool.and_self] at hsub'
  exact (hsub'.eq_of_length hperm.length_eq.symm).symm

theorem sortByColumn_of_pairwise {segments : List Segment}
    (h : segments.Pairwise fun a b => a.generatedColumn ≤ b.generatedColumn) :
    sortByColumn segments = segments :=
  List.mergeSort_of_pairwise (h.imp fun hle => by simpa using hle)

/-! ### Written numbers -/

theorem isSome_of_mem_encodeNat {n : Nat} {c : Char} (h : c ∈ Vlq.encodeNat n) :
    (Base64.digitValue? c).isSome := by
  fun_induction Vlq.encodeNat n with
  | case1 n hn =>
    rw [List.mem_singleton.1 h, Base64.digitValue?_digit (by omega)]
    rfl
  | case2 n hn ih =>
    rcases List.mem_cons.1 h with rfl | hmem
    · rw [Base64.digitValue?_digit (by omega)]
      rfl
    · exact ih hmem

theorem encodeNat_ne_nil (n : Nat) : Vlq.encodeNat n ≠ [] := by
  rw [Vlq.encodeNat]
  split <;> simp

/-- Whether a text may be a piece between separators: it is not empty and has none of them. -/
structure IsPiece (piece : Text) : Prop where
  ne_nil : piece ≠ []
  comma : ',' ∉ piece
  semicolon : ';' ∉ piece

theorem isPiece_encode_append (n : Int) (others : List Int) :
    IsPiece (Vlq.encode n ++ others.flatMap Vlq.encode) := by
  have hdigit : ∀ c ∈ Vlq.encode n ++ others.flatMap Vlq.encode,
      (Base64.digitValue? c).isSome := by
    intro c hc
    rcases List.mem_append.1 hc with hc | hc
    · exact isSome_of_mem_encodeNat hc
    · obtain ⟨m, -, hm⟩ := List.mem_flatMap.1 hc
      exact isSome_of_mem_encodeNat hm
  refine ⟨fun h => ?_, fun h => ?_, fun h => ?_⟩
  · exact encodeNat_ne_nil _ (List.append_eq_nil_iff.1 h).1
  · exact absurd (hdigit _ h) (by decide)
  · exact absurd (hdigit _ h) (by decide)

/-! ### One segment -/

/-- The numbers carried, in the order in which they are written. -/
def Carry.toList (carry : Carry) : List Int := [carry.source, carry.line, carry.column, carry.name]

/-- The numbers carried after a segment. -/
def Carry.after (carry : Carry) (s : Segment) : Carry :=
  ⟨s.sourceIndex, s.sourceLine, s.sourceColumn, s.nameIndex.getD carry.name⟩

/-- What is written of a segment after its column. -/
def placeDeltas (carry : Carry) (s : Segment) : List Int :=
  (s.sourceIndex - carry.source) :: (s.sourceLine - carry.line) ::
    (s.sourceColumn - carry.column) :: (s.nameIndex.map (· - carry.name)).toList

/-- The numbers that stand in a segment's fields. -/
theorem filterMap_of_segmentOf? {fields : List (Option Int)} {s : Segment}
    (h : segmentOf? fields = some s) :
    fields.filterMap id = s.generatedColumn :: s.sourceIndex :: s.sourceLine :: s.sourceColumn ::
      s.nameIndex.toList := by
  unfold segmentOf? at h
  split at h
  · cases h
    rfl
  · rename_i name
    cases h
    cases name <;> rfl
  · cases h

theorem encodeFields_place (carry : Carry) (s : Segment) :
    encodeFields carry.toList
        (s.sourceIndex :: s.sourceLine :: s.sourceColumn :: s.nameIndex.toList) =
      ((placeDeltas carry s).flatMap Vlq.encode, (carry.after s).toList) := by
  cases hname : s.nameIndex <;>
    simp [encodeFields, placeDeltas, Carry.toList, Carry.after, hname]

theorem isPast_eq_false {count : Option Int} {index : Int} :
    isPast count index = false ↔ ∀ n ∈ count, index < n := by
  cases count <;> simp [isPast]

theorem placeStep_eq_ok {counts : Counts} {line : Nat} {carry after : Carry}
    {source row col : Int} :
    placeStep counts line carry source row col = .ok after ↔
      after = ⟨carry.source + source, carry.line + row, carry.column + col, carry.name⟩ ∧
        0 ≤ after.source ∧ 0 ≤ after.line ∧ 0 ≤ after.column ∧
          ∀ n ∈ counts.sources, after.source < n := by
  simp only [placeStep]
  constructor
  · intro h
    split at h
    · cases h
    · rename_i hnonneg
      split at h
      · cases h
      · rename_i hpast
        simp only [not_or, Int.not_lt] at hnonneg
        cases h
        exact ⟨rfl, hnonneg.1, hnonneg.2.1, hnonneg.2.2, isPast_eq_false.1 (by simpa using hpast)⟩
  · rintro ⟨rfl, hsource, hline, hcolumn, hlt⟩
    dsimp only at hsource hline hcolumn
    rw [if_neg (by omega), if_neg (by simpa using isPast_eq_false.2 hlt)]

theorem nameStep_eq_ok {counts : Counts} {line : Nat} {carry after : Carry} {name : Int} :
    nameStep counts line carry name = .ok after ↔
      after = ⟨carry.source, carry.line, carry.column, carry.name + name⟩ ∧ 0 ≤ after.name ∧
        ∀ n ∈ counts.names, after.name < n := by
  simp only [nameStep]
  constructor
  · intro h
    split at h
    · cases h
    · rename_i hin
      obtain ⟨hnonneg, hpast⟩ := not_or.1 hin
      cases h
      exact ⟨rfl, Int.not_lt.1 hnonneg, isPast_eq_false.1 (by simpa using hpast)⟩
  · rintro ⟨rfl, hnonneg, hlt⟩
    rw [if_neg (not_or.2 ⟨Int.not_lt.2 hnonneg, by simpa using isPast_eq_false.2 hlt⟩)]

/-- The numbers that a piece may have: a column alone, or a column, a place and perhaps a name. -/
inductive Fields : List Int → Prop
  | column (first : Int) : Fields [first]
  | segment (first source row col : Int) (name : Option Int) :
      Fields (first :: source :: row :: col :: name.toList)

theorem fields_iff {fields : List Int} :
    Fields fields ↔ fields.length = 1 ∨ fields.length = 4 ∨ fields.length = 5 := by
  constructor
  · rintro (_ | ⟨_, _, _, _, _ | _⟩) <;> simp
  · match fields with
    | [first] => exact fun _ => .column first
    | [first, source, row, col] => exact fun _ => .segment first source row col none
    | [first, source, row, col, name] => exact fun _ => .segment first source row col (some name)
    | [] => simp
    | [_, _] => simp
    | [_, _, _] => simp
    | _ :: _ :: _ :: _ :: _ :: _ :: _ => simp

/-- The segment of the numbers of a piece, added to the column and the numbers carried. -/
def Carry.segment (carry : Carry) (column first source row col : Int) (name : Option Int) :
    Segment :=
  ⟨column + first, carry.source + source, carry.line + row, carry.column + col,
    name.map (carry.name + ·)⟩

/-- What the numbers of a piece make of the column and the numbers carried: a segment or none, and
the column and numbers after it. -/
inductive Advance (counts : Counts) (column : Int) (carry : Carry) :
    List Int → Option Segment × Int × Carry → Prop
  /-- A column alone. -/
  | column {first : Int} (h : 0 ≤ column + first) :
      Advance counts column carry [first] (none, column + first, carry)
  /-- A column, a place and perhaps a name. -/
  | segment {first source row col : Int} {name : Option Int}
      (h : (carry.segment column first source row col name).Valid counts) :
      Advance counts column carry (first :: source :: row :: col :: name.toList)
        (some (carry.segment column first source row col name), column + first,
          carry.after (carry.segment column first source row col name))

theorem Advance.pieceStep_eq {counts : Counts} {column : Int} {carry : Carry} {fields : List Int}
    {out : Option Segment × Int × Carry} (h : Advance counts column carry fields out)
    {piece : Text} (hpiece : Vlq.decode piece = .ok fields) (line : Nat) :
    pieceStep counts line column carry piece = .ok out := by
  rw [pieceStep, hpiece]
  cases h with
  | column h =>
    simp only [List.length_singleton, List.headD_cons, Int.not_lt.2 h, if_false]
    rfl
  | @segment first source row col name h =>
    have hcolumn : ¬ column + first < 0 := Int.not_lt.2 h.generatedColumn
    have hplace : placeStep counts line carry source row col = .ok
        ⟨carry.source + source, carry.line + row, carry.column + col, carry.name⟩ :=
      placeStep_eq_ok.2 ⟨rfl, h.sourceIndex, h.sourceLine, h.sourceColumn, h.source_lt⟩
    cases name with
    | none => simp [hcolumn, hplace, Carry.segment, Carry.after]
    | some name =>
      have hname : nameStep counts line
          ⟨carry.source + source, carry.line + row, carry.column + col, carry.name⟩ name = .ok
            ⟨carry.source + source, carry.line + row, carry.column + col, carry.name + name⟩ :=
        nameStep_eq_ok.2 ⟨rfl, h.nameIndex _ rfl, h.name_lt _ rfl⟩
      simp [hcolumn, hplace, hname, Carry.segment, Carry.after]

theorem advance_of_pieceStep {counts : Counts} {line : Nat} {column : Int} {carry : Carry}
    {piece : Text} {out : Option Segment × Int × Carry}
    (h : pieceStep counts line column carry piece = .ok out) :
    ∃ fields, Vlq.decode piece = .ok fields ∧ Advance counts column carry fields out := by
  unfold pieceStep at h
  split at h
  · cases h
  · rename_i fields hfields
    refine ⟨fields, hfields, ?_⟩
    dsimp only at h
    by_cases hcount : fields.length ≠ 1 ∧ fields.length ≠ 4 ∧ fields.length ≠ 5
    · rw [if_pos hcount] at h
      cases h
    by_cases hcolumn : column + fields.headD 0 < 0
    · rw [if_neg hcount, if_pos hcolumn] at h
      cases h
    rw [if_neg hcount, if_neg hcolumn] at h
    rw [Int.not_lt] at hcolumn
    have hcases : Fields fields := fields_iff.2 (by omega)
    rcases hcases with _ | ⟨first, source, row, col, _ | name⟩
    · cases h
      exact .column hcolumn
    · obtain ⟨placed, hplace, heq⟩ := bind_eq_ok.1 h
      obtain ⟨rfl, hsource, hline, hcol, hlt⟩ := placeStep_eq_ok.1 hplace
      cases heq
      exact .segment ⟨hcolumn, hsource, hline, hcol, hlt, nofun, nofun⟩
    · obtain ⟨placed, hplace, hrest⟩ := bind_eq_ok.1 h
      obtain ⟨named, hname, heq⟩ := bind_eq_ok.1 hrest
      obtain ⟨rfl, hsource, hline, hcol, hlt⟩ := placeStep_eq_ok.1 hplace
      obtain ⟨rfl, hnonneg, hbelow⟩ := nameStep_eq_ok.1 hname
      cases heq
      refine .segment ⟨hcolumn, hsource, hline, hcol, hlt, ?_, ?_⟩
      · rintro _ ⟨⟩
        exact hnonneg
      · rintro _ ⟨⟩
        exact hbelow

/-- What a piece makes of the numbers before it is what the numbers of its text make of them. -/
theorem pieceStep_eq_ok {counts : Counts} {line : Nat} {column : Int} {carry : Carry} {piece : Text}
    {out : Option Segment × Int × Carry} :
    pieceStep counts line column carry piece = .ok out ↔
      ∃ fields, Vlq.decode piece = .ok fields ∧ Advance counts column carry fields out := by
  constructor
  · exact advance_of_pieceStep
  · rintro ⟨fields, hfields, hadvance⟩
    exact hadvance.pieceStep_eq hfields line

theorem segment_placeDeltas (carry : Carry) (column : Int) (s : Segment) :
    carry.segment column (s.generatedColumn - column) (s.sourceIndex - carry.source)
      (s.sourceLine - carry.line) (s.sourceColumn - carry.column)
      (s.nameIndex.map (· - carry.name)) = s := by
  obtain ⟨generated, source, row, col, name⟩ := s
  cases name <;> simp [Carry.segment]

/-- The reader makes a segment of what was written of it. -/
theorem pieceStep_of_valid {counts : Counts} {s : Segment} (h : s.Valid counts) (line : Nat)
    (column : Int) (carry : Carry) :
    pieceStep counts line column carry
        (((s.generatedColumn - column) :: placeDeltas carry s).flatMap Vlq.encode) =
      .ok (some s, s.generatedColumn, carry.after s) := by
  refine pieceStep_eq_ok.2 ⟨_, Vlq.decode_flatMap_encode _, ?_⟩
  have hsame := segment_placeDeltas carry column s
  rw [← hsame] at h
  have hadvance := Advance.segment h
  rwa [hsame, add_sub_cancel] at hadvance

theorem pieceStep_column {counts : Counts} {next : Int} (h : 0 ≤ next) (line : Nat) (column : Int)
    (carry : Carry) :
    pieceStep counts line column carry (Vlq.encode (next - column)) = .ok (none, next, carry) := by
  have hdecode : Vlq.decode (Vlq.encode (next - column)) = .ok [next - column] := by
    simpa using Vlq.decode_flatMap_encode [next - column]
  rw [← add_sub_cancel column next] at h
  have hadvance : Advance counts column carry [next - column] _ := .column h
  rw [add_sub_cancel] at hadvance
  exact pieceStep_eq_ok.2 ⟨_, hdecode, hadvance⟩

/-! ### Lines -/

/-- The reader stands where the writer stood after every line, and has its segments. -/
theorem lineSteps_encodeLine {counts : Counts} {row : List (List (Option Int))}
    (h : ∀ fields ∈ row, Absolute counts fields) (line : Nat) (column : Int) (carry : Carry) :
    ∃ texts after, encodeLine column carry.toList row = .ok (texts, Carry.toList after) ∧
      lineSteps counts line column carry texts = .ok (row.filterMap segmentOf?, after) ∧
        ∀ piece ∈ texts, IsPiece piece := by
  -- for any numbers to start from, since both sides go on from where a segment left them
  induction row generalizing column carry with
  | nil => exact ⟨[], carry, rfl, rfl, by simp⟩
  | cons fields rest ih =>
    have hrest : ∀ fields ∈ rest, Absolute counts fields :=
      fun f hf => h f (List.mem_cons_of_mem _ hf)
    cases h fields List.mem_cons_self with
    | @column next hnext =>
      obtain ⟨texts, after, hwrite, hread, hpieces⟩ := ih hrest next carry
      have hpiece : IsPiece (Vlq.encode (next - column)) := by
        simpa using isPiece_encode_append (next - column) []
      refine ⟨Vlq.encode (next - column) :: texts, after, ?_, ?_, ?_⟩
      · simp [encodeLine, encodeFields, hwrite]
      · have hnone : segmentOf? [some next] = none := rfl
        simp [lineSteps, hpiece.ne_nil, pieceStep_column hnext, hread, hnone]
      · exact List.forall_mem_cons.2 ⟨hpiece, hpieces⟩
    | @segment _ s hs hvalid =>
      obtain ⟨texts, after, hwrite, hread, hpieces⟩ := ih hrest s.generatedColumn (carry.after s)
      have hpiece := isPiece_encode_append (s.generatedColumn - column) (placeDeltas carry s)
      have hstep := pieceStep_of_valid hvalid line column carry
      refine ⟨(Vlq.encode (s.generatedColumn - column) ++ (placeDeltas carry s).flatMap Vlq.encode)
        :: texts, after, ?_, ?_, ?_⟩
      · have hlength : ¬ ((fields.filterMap id).length ≠ 1 ∧ (fields.filterMap id).length ≠ 4 ∧
            (fields.filterMap id).length ≠ 5) := by
          rw [filterMap_of_segmentOf? hs]
          cases s.nameIndex <;> simp
        rw [encodeLine, if_neg hlength, filterMap_of_segmentOf? hs]
        simp [encodeFields_place, hwrite]
      · rw [List.flatMap_cons] at hstep
        simp [lineSteps, hpiece.ne_nil, hstep, hread, hs]
      · exact List.forall_mem_cons.2 ⟨hpiece, hpieces⟩

/-- An empty piece changes nothing, so a line without segments is read from an empty text. -/
theorem lineSteps_pieces_joined (counts : Counts) (line : Nat) (column : Int) (carry : Carry)
    {texts : List Text} (h : ∀ piece ∈ texts, IsPiece piece) :
    lineSteps counts line column carry ((Text.joined [','] texts).pieces ',') =
      lineSteps counts line column carry texts := by
  by_cases hnil : texts = []
  · subst hnil
    simp [Text.joined, lineSteps]
  · rw [Text.pieces_joined hnil fun piece hp => (h piece hp).comma]

/-! ### Tables -/

/-- The reader has the segments of every line of what the writer wrote. -/
theorem tableSteps_encodeLines {counts : Counts} {rows : List (List (List (Option Int)))}
    (h : ∀ row ∈ rows, ∀ fields ∈ row, Absolute counts fields) (line : Nat) (carry : Carry) :
    ∃ texts, encodeLines carry.toList rows = .ok texts ∧ texts.length = rows.length ∧
      tableSteps counts line carry texts =
        .ok (rows.map fun row => sortByColumn (row.filterMap segmentOf?)) ∧
          ∀ piece ∈ texts, ';' ∉ piece := by
  -- the column starts anew with every line, the other numbers are carried over
  induction rows generalizing line carry with
  | nil => exact ⟨[], rfl, rfl, rfl, by simp⟩
  | cons row rest ih =>
    obtain ⟨pieces, after, hwrite, hread, hpieces⟩ :=
      lineSteps_encodeLine (h row List.mem_cons_self) line 0 carry
    obtain ⟨texts, hwrites, hlength, hreads, htexts⟩ :=
      ih (fun r hr => h r (List.mem_cons_of_mem _ hr)) (line + 1) after
    refine ⟨Text.joined [','] pieces :: texts, ?_, ?_, ?_, ?_⟩
    · simp [encodeLines, hwrite, hwrites]
    · simp [hlength]
    · simp [tableSteps, lineSteps_pieces_joined counts line 0 carry hpieces, hread, hreads]
    · exact List.forall_mem_cons.2
        ⟨Text.not_mem_joined (by decide) fun piece hp => (hpieces piece hp).semicolon, htexts⟩

theorem decode_table {counts : Counts} {rows : List (List (List (Option Int)))} (hne : rows ≠ [])
    (h : ∀ row ∈ rows, ∀ fields ∈ row, Absolute counts fields) :
    ∃ table, encode rows = .ok table ∧
      decode counts table = .ok (rows.map fun row => sortByColumn (row.filterMap segmentOf?)) := by
  obtain ⟨texts, hwrite, hlength, hread, htexts⟩ := tableSteps_encodeLines h 0 Carry.start
  have htexts_ne : texts ≠ [] := by
    rintro rfl
    exact hne (List.length_eq_zero_iff.1 hlength.symm)
  refine ⟨Text.joined [';'] texts, ?_, ?_⟩
  · rw [encode, show [0, 0, 0, 0] = Carry.start.toList from rfl, hwrite]
    rfl
  · rw [decode, Text.pieces_joined htexts_ne htexts, hread]

/-! ### What is read -/

theorem valid_of_pieceStep {counts : Counts} {line : Nat} {column next : Int}
    {carry after : Carry} {piece : Text} {segment : Option Segment}
    (h : pieceStep counts line column carry piece = .ok (segment, next, after)) :
    ∀ s ∈ segment, s.Valid counts := by
  obtain ⟨fields, -, hadvance⟩ := pieceStep_eq_ok.1 h
  cases hadvance with
  | column => nofun
  | segment hvalid =>
    rintro s ⟨⟩
    exact hvalid

theorem valid_of_lineSteps {counts : Counts} {line : Nat} {column : Int} {carry after : Carry}
    {pieces : List Text} {segments : List Segment}
    (h : lineSteps counts line column carry pieces = .ok (segments, after)) :
    ∀ s ∈ segments, s.Valid counts := by
  induction pieces generalizing column carry segments with
  | nil =>
    cases h
    simp
  | cons piece rest ih =>
    rw [lineSteps] at h
    split at h
    · exact ih h
    · obtain ⟨⟨segment, next, between⟩, hpiece, hrest⟩ := bind_eq_ok.1 h
      obtain ⟨⟨others, last⟩, hothers, heq⟩ := bind_eq_ok.1 hrest
      cases heq
      intro s hs
      rcases List.mem_append.1 hs with hs | hs
      · exact valid_of_pieceStep hpiece s (Option.mem_toList.1 hs)
      · exact ih hothers s hs

theorem valid_of_tableSteps {counts : Counts} {line : Nat} {carry : Carry} {texts : List Text}
    {lines : List (List Segment)} (h : tableSteps counts line carry texts = .ok lines) :
    lines.length = texts.length ∧ ∀ row ∈ lines, (∀ s ∈ row, s.Valid counts) ∧
      row.Pairwise fun a b => a.generatedColumn ≤ b.generatedColumn := by
  induction texts generalizing line carry lines with
  | nil =>
    cases h
    simp
  | cons text rest ih =>
    obtain ⟨⟨segments, after⟩, hline, hrest⟩ := bind_eq_ok.1 h
    obtain ⟨others, hothers, heq⟩ := bind_eq_ok.1 hrest
    obtain ⟨hlength, hvalid⟩ := ih hothers
    cases heq
    refine ⟨by simp [hlength], List.forall_mem_cons.2 ⟨⟨fun s hs => ?_, ?_⟩, hvalid⟩⟩
    · exact valid_of_lineSteps hline s (List.mem_mergeSort.1 hs)
    · exact pairwise_sortByColumn segments

/-- Whatever is read of a table is valid and in the order of its columns, and has a line at
least. -/
theorem valid_of_decode {counts : Counts} {table : Text} {lines : List (List Segment)}
    (h : decode counts table = .ok lines) :
    lines ≠ [] ∧ ∀ row ∈ lines, (∀ s ∈ row, s.Valid counts) ∧
      row.Pairwise fun a b => a.generatedColumn ≤ b.generatedColumn := by
  obtain ⟨hlength, hvalid⟩ := valid_of_tableSteps h
  refine ⟨?_, hvalid⟩
  rintro rfl
  exact Text.pieces_ne_nil ';' table (List.length_eq_zero_iff.1 hlength.symm)

theorem segmentOf?_segmentFields (s : Segment) : segmentOf? (segmentFields s) = some s := rfl

/-- The numbers of segments that are valid and in order stand for these segments. -/
theorem sortByColumn_segmentFields {row : List Segment}
    (h : row.Pairwise fun a b => a.generatedColumn ≤ b.generatedColumn) :
    sortByColumn ((row.map segmentFields).filterMap segmentOf?) = row := by
  rw [List.filterMap_map, show segmentOf? ∘ segmentFields = some from
    funext segmentOf?_segmentFields, List.filterMap_some, sortByColumn_of_pairwise h]

/-- **Tables are read as they were written.** The table of a list of lines of segments is read as
these lines, without the columns that stand alone and each line stably sorted. A table that can be
read has the same meaning when it is written anew from what was read. -/
theorem decode_encode_lines (counts : Counts) :
    (∀ rows : List (List (List (Option Int))), rows ≠ [] →
      (∀ row ∈ rows, ∀ fields ∈ row, Absolute counts fields) →
      ∃ table lines, encode rows = .ok table ∧ decode counts table = .ok lines ∧
        List.Forall₂ (fun row line => StablySorted (row.filterMap segmentOf?) line) rows lines) ∧
    (∀ table lines, decode counts table = .ok lines →
      ∃ again, encode (lines.map fun line => line.map segmentFields) = .ok again ∧
        decode counts again = .ok lines) := by
  constructor
  · intro rows hne hrows
    obtain ⟨table, hwrite, hread⟩ := decode_table hne hrows
    refine ⟨table, _, hwrite, hread, ?_⟩
    rw [List.forall₂_map_right_iff]
    exact List.forall₂_same.2 fun row _ => stablySorted_sortByColumn _
  · intro table lines hread
    obtain ⟨hne, hlines⟩ := valid_of_decode hread
    have hrows : ∀ row ∈ lines.map fun line => line.map segmentFields, ∀ fields ∈ row,
        Absolute counts fields := by
      intro row hrow fields hfields
      obtain ⟨line, hline, rfl⟩ := List.mem_map.1 hrow
      obtain ⟨s, hs, rfl⟩ := List.mem_map.1 hfields
      exact .segment (segmentOf?_segmentFields s) ((hlines line hline).1 s hs)
    -- what is written anew is read by the first part, and sorting it changes nothing
    obtain ⟨again, hwrite, hagain⟩ := decode_table (by simpa using hne) hrows
    refine ⟨again, hwrite, ?_⟩
    rw [hagain, List.map_map]
    congr 1
    refine (List.map_congr_left fun line hline => ?_).trans (List.map_id lines)
    exact sortByColumn_segmentFields (hlines line hline).2

/-- Lines with columns out of order, a column alone, a name that is not there, and a blank line. -/
def scatteredRows : List (List (List (Option Int))) :=
  [[[some 5, some 0, some 0, some 3, none], [some 2]], [],
    [[some 4, some 1, some 20, some 0, some 1], [some 0, some 0, some 7, some 1],
      [some 4, some 0, some 0, some 0, some 0]]]

theorem decode_encode_lines_scattered :
    (∀ row ∈ scatteredRows, ∀ fields ∈ row, Absolute ⟨some 2, some 2⟩ fields) ∧
      ∃ table lines, encode scatteredRows = .ok table ∧ decode ⟨some 2, some 2⟩ table = .ok lines ∧
        List.Forall₂ (fun row line => StablySorted (row.filterMap segmentOf?) line)
          scatteredRows lines := by
  have h : ∀ row ∈ scatteredRows, ∀ fields ∈ row, Absolute ⟨some 2, some 2⟩ fields := by decide
  exact ⟨h, (decode_encode_lines _).1 scatteredRows (by decide) h⟩

example : encode scatteredRows = .ok "KAAG,H;;ICoBHC,JDbC,IAPDD".toList := by cbv

end Mappings

end Retrace

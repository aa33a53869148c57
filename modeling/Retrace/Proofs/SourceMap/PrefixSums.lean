import Retrace.Proofs.SourceMap.Mappings
import Retrace.Proofs.SourceMap.Vlq

/-!
# Tables as sums

A table is read with numbers that are added up and checked piece by piece. What it stands for can
be said of the table as a whole: its numbers are differences, the segments are sums of all that
stand in one place, of a line for the columns and of the table for the others, and all these sums
are in range.

* `TableReads`: the numbers of the pieces of a table, line by line;
* `Fits`: the running sums of these numbers are in range;
* `segmentAfter`, `linesFrom`: the segments that the sums make up;
* `advance_iff`: a piece is checked for the sums that end with it, and makes their segment;
* `lineSteps_eq_ok`, `tableSteps_eq_ok`: the numbers carried are the sums of what was read.

Main statement: `decode_prefixSums`.
-/

namespace Retrace.Mappings

/-- The numbers that stand in a place, over all pieces that have one there. -/
def numbers (place : Nat) (pieces : List (List Int)) : List Int := pieces.filterMap (·[place]?)

/-- Their sum. -/
def total (place : Nat) (pieces : List (List Int)) : Int := (numbers place pieces).sum

/-- Whether every running sum of numbers is as it should be: the first of them, the sum of the first
two, and so on. -/
def EverySum (ok : Int → Prop) (numbers : List Int) : Prop :=
  ∀ first, first <+: numbers → first ≠ [] → ok first.sum

/-- Whether numbers are those of a piece. -/
structure PieceReads (piece : Text) (fields : List Int) : Prop where
  run : Vlq.Run piece fields
  count : fields.length = 1 ∨ fields.length = 4 ∨ fields.length = 5

/-- Whether rows of numbers are those of the pieces of a line; a piece may be empty and is then
passed over. -/
def LineReads (line : List Text) (row : List (List Int)) : Prop :=
  List.Forall₂ PieceReads (line.filter (· ≠ [])) row

/-- Whether rows of numbers are those of the lines of a table. -/
def TableReads (table : Text) (rows : List (List (List Int))) : Prop :=
  List.Forall₂ (fun line row => LineReads (line.pieces ',') row) (table.pieces ';') rows

/-- Whether the running sums that go through a table are in range. -/
structure InRange (counts : Counts) (pieces : List (List Int)) : Prop where
  source : EverySum (fun sum => 0 ≤ sum ∧ ∀ count ∈ counts.sources, sum < count) (numbers 1 pieces)
  line : EverySum (0 ≤ ·) (numbers 2 pieces)
  column : EverySum (0 ≤ ·) (numbers 3 pieces)
  name : EverySum (fun sum => 0 ≤ sum ∧ ∀ count ∈ counts.names, sum < count) (numbers 4 pieces)

/-- Whether all running sums of a table are in range. -/
structure Fits (counts : Counts) (rows : List (List (List Int))) : Prop where
  columns : ∀ row ∈ rows, EverySum (0 ≤ ·) (numbers 0 row)
  others : InRange counts rows.flatten

/-- The segment of a piece, after the pieces of the lines above and those before it in its line: the
sums up to it. A piece of one number has none. -/
def segmentAfter (above before : List (List Int)) (fields : List Int) : Option Segment :=
  let ofLine := before ++ [fields]
  let ofTable := above ++ ofLine
  if fields.length = 1 then none
  else some ⟨total 0 ofLine, total 1 ofTable, total 2 ofTable, total 3 ofTable,
    if fields.length = 5 then some (total 4 ofTable) else none⟩

/-- The segments of pieces, after those of the lines above and those before them in their line. -/
def segmentsFrom (above before row : List (List Int)) : List Segment :=
  (row.mapIdx fun i fields => segmentAfter above (before ++ row.take i) fields).filterMap id

/-- The segments of lines, after the pieces of the lines above. -/
def linesFrom (above : List (List Int)) (rows : List (List (List Int))) : List (List Segment) :=
  rows.mapIdx fun i row => segmentsFrom (above ++ (rows.take i).flatten) [] row

/-! ### Sums -/

theorem numbers_append (place : Nat) (pieces others : List (List Int)) :
    numbers place (pieces ++ others) = numbers place pieces ++ numbers place others :=
  List.filterMap_append

theorem numbers_singleton (place : Nat) (fields : List Int) :
    numbers place [fields] = fields[place]?.toList := by
  cases h : fields[place]? <;> simp [numbers, h]

theorem total_concat (place : Nat) (pieces : List (List Int)) (fields : List Int) :
    total place (pieces ++ [fields]) = total place pieces + (fields[place]?).getD 0 := by
  rw [total, numbers_append, numbers_singleton, List.sum_append, total]
  cases fields[place]? <;> simp

theorem everySum_nil (ok : Int → Prop) : EverySum ok [] :=
  fun _ hfirst hne => absurd (List.prefix_nil.1 hfirst) hne

theorem EverySum.of_append {ok : Int → Prop} {xs ys : List Int} (h : EverySum ok (xs ++ ys)) :
    EverySum ok xs :=
  fun first hfirst => h first (hfirst.trans (List.prefix_append xs ys))

theorem EverySum.of_numbers_append {ok : Int → Prop} {place : Nat} {pieces others : List (List Int)}
    (h : EverySum ok (numbers place (pieces ++ others))) : EverySum ok (numbers place pieces) := by
  rw [numbers_append] at h
  exact h.of_append

/-- With one more number there is one more sum. -/
theorem everySum_concat {ok : Int → Prop} {xs : List Int} {x : Int} :
    EverySum ok (xs ++ [x]) ↔ EverySum ok xs ∧ ok (xs.sum + x) := by
  constructor
  · intro h
    refine ⟨h.of_append, ?_⟩
    simpa using h (xs ++ [x]) List.prefix_rfl (by simp)
  · rintro ⟨hxs, hx⟩ first hfirst hne
    rcases List.prefix_concat_iff.1 hfirst with rfl | hfirst
    · simpa using hx
    · exact hxs first hfirst hne

theorem everySum_numbers_concat {ok : Int → Prop} {place : Nat} {pieces : List (List Int)}
    {fields : List Int} :
    EverySum ok (numbers place (pieces ++ [fields])) ↔
      EverySum ok (numbers place pieces) ∧ ∀ x ∈ fields[place]?, ok (total place pieces + x) := by
  rw [numbers_append, numbers_singleton]
  cases fields[place]? with
  | none => simp
  | some x => simp [everySum_concat, total]

theorem InRange.of_append {counts : Counts} {pieces others : List (List Int)}
    (h : InRange counts (pieces ++ others)) : InRange counts pieces := by
  obtain ⟨hsource, hline, hcolumn, hname⟩ := h
  exact ⟨hsource.of_numbers_append, hline.of_numbers_append, hcolumn.of_numbers_append,
    hname.of_numbers_append⟩

theorem inRange_nil (counts : Counts) : InRange counts [] :=
  ⟨everySum_nil _, everySum_nil _, everySum_nil _, everySum_nil _⟩

/-- With one more piece there is one more sum for each of its numbers. -/
theorem inRange_concat {counts : Counts} {pieces : List (List Int)} {fields : List Int} :
    InRange counts (pieces ++ [fields]) ↔ InRange counts pieces ∧
      (∀ x ∈ fields[1]?, 0 ≤ total 1 pieces + x ∧
        ∀ count ∈ counts.sources, total 1 pieces + x < count) ∧
      (∀ x ∈ fields[2]?, 0 ≤ total 2 pieces + x) ∧ (∀ x ∈ fields[3]?, 0 ≤ total 3 pieces + x) ∧
      ∀ x ∈ fields[4]?, 0 ≤ total 4 pieces + x ∧
        ∀ count ∈ counts.names, total 4 pieces + x < count := by
  constructor
  · intro h
    have hpieces := h.of_append
    obtain ⟨hsource, hline, hcolumn, hname⟩ := h
    rw [everySum_numbers_concat] at hsource hline hcolumn hname
    exact ⟨hpieces, hsource.2, hline.2, hcolumn.2, hname.2⟩
  · rintro ⟨⟨hsource, hline, hcolumn, hname⟩, hsource', hline', hcolumn', hname'⟩
    exact ⟨everySum_numbers_concat.2 ⟨hsource, hsource'⟩, everySum_numbers_concat.2 ⟨hline, hline'⟩,
      everySum_numbers_concat.2 ⟨hcolumn, hcolumn'⟩, everySum_numbers_concat.2 ⟨hname, hname'⟩⟩

/-! ### One piece -/

/-- The sums of the numbers that run through a table. -/
def Carry.of (pieces : List (List Int)) : Carry :=
  ⟨total 1 pieces, total 2 pieces, total 3 pieces, total 4 pieces⟩

/-- The segment of a piece is made of its numbers and the sums before it. -/
theorem segmentAfter_eq (above before : List (List Int)) (first source row col : Int)
    (name : Option Int) :
    segmentAfter above before (first :: source :: row :: col :: name.toList) =
      some ((Carry.of (above ++ before)).segment (total 0 before) first source row col name) := by
  rw [segmentAfter, ← List.append_assoc]
  cases name <;> simp [total_concat, Carry.of, Carry.segment, -List.append_assoc]

theorem of_concat_column (pieces : List (List Int)) (first : Int) :
    Carry.of (pieces ++ [[first]]) = Carry.of pieces := by
  simp [total_concat, Carry.of]

theorem of_concat_segment (pieces : List (List Int)) (column first source row col : Int)
    (name : Option Int) :
    Carry.of (pieces ++ [first :: source :: row :: col :: name.toList]) =
      (Carry.of pieces).after
        ((Carry.of pieces).segment column first source row col name) := by
  cases name <;> simp [total_concat, Carry.of, Carry.after, Carry.segment]

/-- The segment of a piece is valid if the sums that end with the piece are in range. -/
theorem valid_segment_iff {counts : Counts} {before pieces : List (List Int)}
    {first source row col : Int} {name : Option Int}
    (hcolumns : EverySum (0 ≤ ·) (numbers 0 before)) (hothers : InRange counts pieces) :
    ((Carry.of pieces).segment (total 0 before) first source row col name).Valid counts ↔
      EverySum (0 ≤ ·)
          (numbers 0 (before ++ [first :: source :: row :: col :: name.toList])) ∧
        InRange counts (pieces ++ [first :: source :: row :: col :: name.toList]) := by
  rw [everySum_numbers_concat, inRange_concat]
  simp only [hcolumns, hothers, true_and]
  constructor
  · rintro ⟨hcolumn, hsource, hline, hcol, hlt, hname, hnamed⟩
    refine ⟨?_, ?_, ?_, ?_, ?_⟩
    · rintro _ ⟨⟩
      exact hcolumn
    · rintro _ ⟨⟩
      exact ⟨hsource, hlt⟩
    · rintro _ ⟨⟩
      exact hline
    · rintro _ ⟨⟩
      exact hcol
    · cases name with
      | none => nofun
      | some name =>
        rintro _ ⟨⟩
        exact ⟨hname _ rfl, hnamed _ rfl⟩
  · rintro ⟨hcolumn, hsource, hline, hcol, hname⟩
    obtain ⟨hsource, hlt⟩ := hsource source rfl
    refine ⟨hcolumn first rfl, hsource, hline row rfl, hcol col rfl, hlt, ?_, ?_⟩
    · cases name with
      | none => nofun
      | some name =>
        rintro _ ⟨⟩
        exact (hname name rfl).1
    · cases name with
      | none => nofun
      | some name =>
        rintro _ ⟨⟩
        exact (hname name rfl).2

/-- After pieces whose sums are in range, the reader goes on if the sums that end with the next
piece are, and makes their segment. -/
theorem advance_iff {counts : Counts} {above before : List (List Int)} {fields : List Int}
    {out : Option Segment × Int × Carry} (hcolumns : EverySum (0 ≤ ·) (numbers 0 before))
    (hothers : InRange counts (above ++ before)) :
    Advance counts (total 0 before) (Carry.of (above ++ before)) fields out ↔
      Fields fields ∧ EverySum (0 ≤ ·) (numbers 0 (before ++ [fields])) ∧
        InRange counts (above ++ (before ++ [fields])) ∧
          out = (segmentAfter above before fields, total 0 (before ++ [fields]),
            Carry.of (above ++ (before ++ [fields]))) := by
  rw [← List.append_assoc]
  constructor
  · intro h
    cases h with
    | @column first h =>
      refine ⟨.column first, ?_, ?_, ?_⟩
      · simpa [everySum_numbers_concat, hcolumns] using h
      · rw [inRange_concat]
        simp [hothers]
      · rw [of_concat_column, total_concat]
        rfl
    | @segment first source row col name h =>
      obtain ⟨hcolumn, hother⟩ := (valid_segment_iff hcolumns hothers).1 h
      refine ⟨.segment .., hcolumn, hother, ?_⟩
      rw [segmentAfter_eq, of_concat_segment _ (total 0 before), total_concat]
      rfl
  · rintro ⟨hfields, hcolumn, hother, rfl⟩
    cases hfields with
    | column first =>
      have hnext : 0 ≤ total 0 before + first :=
        (everySum_numbers_concat.1 hcolumn).2 first rfl
      rw [of_concat_column, total_concat]
      exact .column hnext
    | segment first source row col name =>
      rw [segmentAfter_eq, of_concat_segment _ (total 0 before), total_concat]
      exact .segment ((valid_segment_iff hcolumns hothers).2 ⟨hcolumn, hother⟩)

/-! ### Lines and tables -/

theorem segmentsFrom_cons (above before : List (List Int)) (fields : List Int)
    (row : List (List Int)) :
    segmentsFrom above before (fields :: row) =
      (segmentAfter above before fields).toList ++ segmentsFrom above (before ++ [fields]) row := by
  cases h : segmentAfter above before fields <;> simp [segmentsFrom, List.mapIdx_cons, h]

theorem linesFrom_cons (above row : List (List Int)) (rows : List (List (List Int))) :
    linesFrom above (row :: rows) =
      segmentsFrom above [] row :: linesFrom (above ++ row) rows := by
  simp [linesFrom, List.mapIdx_cons]

theorem lineReads_nil {row : List (List Int)} : LineReads [] row ↔ row = [] :=
  List.forall₂_nil_left_iff

theorem lineReads_cons {piece : Text} {rest : List Text} {row : List (List Int)}
    (h : piece ≠ []) :
    LineReads (piece :: rest) row ↔
      ∃ fields others, PieceReads piece fields ∧ LineReads rest others ∧
        row = fields :: others := by
  rw [LineReads, List.filter_cons_of_pos (by simpa using h), List.forall₂_cons_left_iff]
  rfl

theorem lineReads_cons_nil {rest : List Text} {row : List (List Int)} :
    LineReads ([] :: rest) row ↔ LineReads rest row := by
  rw [LineReads, List.filter_cons_of_neg (by simp), LineReads]

theorem pieceReads_iff {piece : Text} {fields : List Int} :
    PieceReads piece fields ↔ Vlq.decode piece = .ok fields ∧ Fields fields := by
  rw [Vlq.decode_eq_ok, fields_iff]
  exact ⟨fun h => ⟨h.run, h.count⟩, fun h => ⟨h.1, h.2⟩⟩

/-- After pieces whose sums are in range, a line is read if its pieces are runs of numbers and all
sums that end with one of them are in range. -/
theorem lineSteps_eq_ok {counts : Counts} {above before : List (List Int)} {pieces : List Text}
    {out : List Segment × Carry} (lineNumber : Nat)
    (hcolumns : EverySum (0 ≤ ·) (numbers 0 before)) (hothers : InRange counts (above ++ before)) :
    lineSteps counts lineNumber (total 0 before) (Carry.of (above ++ before)) pieces = .ok out ↔
      ∃ row, LineReads pieces row ∧ EverySum (0 ≤ ·) (numbers 0 (before ++ row)) ∧
        InRange counts (above ++ (before ++ row)) ∧
          out = (segmentsFrom above before row, Carry.of (above ++ (before ++ row))) := by
  -- whatever was read of the line so far, it is what the next piece is added to
  induction pieces generalizing before out with
  | nil => simp [lineSteps, lineReads_nil, hcolumns, hothers, segmentsFrom, eq_comm]
  | cons piece rest ih =>
    rw [lineSteps]
    by_cases hempty : piece = []
    · subst hempty
      simp only [List.isEmpty_nil, if_true, lineReads_cons_nil]
      exact ih hcolumns hothers
    rw [if_neg (by simpa using hempty)]
    simp only [bind_eq_ok, pieceStep_eq_ok, advance_iff hcolumns hothers, lineReads_cons hempty,
      pieceReads_iff]
    constructor
    · rintro ⟨_, ⟨fields, hdecode, hfields, hcolumn, hother, rfl⟩, ⟨others, last⟩, hrest, heq⟩
      obtain ⟨row, hrow, hcolumns', hothers', hout⟩ := (ih hcolumn hother).1 hrest
      cases hout
      cases heq
      refine ⟨fields :: row, ⟨fields, row, ⟨hdecode, hfields⟩, hrow, rfl⟩, ?_⟩
      rw [segmentsFrom_cons, List.append_cons before fields row]
      exact ⟨hcolumns', hothers', rfl⟩
    · rintro ⟨_, ⟨fields, row, ⟨hdecode, hfields⟩, hrow, rfl⟩, hcolumns', hothers', rfl⟩
      rw [List.append_cons before fields row] at hcolumns' hothers' ⊢
      have hcolumn := hcolumns'.of_numbers_append
      have hother : InRange counts (above ++ (before ++ [fields])) := by
        rw [← List.append_assoc] at hothers'
        exact hothers'.of_append
      refine ⟨_, ⟨fields, hdecode, hfields, hcolumn, hother, rfl⟩, _,
        (ih hcolumn hother).2 ⟨row, hrow, hcolumns', hothers', rfl⟩, ?_⟩
      rw [segmentsFrom_cons]

/-- A line starts with no pieces before it. -/
theorem lineSteps_start_eq_ok {counts : Counts} {above : List (List Int)} {pieces : List Text}
    {out : List Segment × Carry} (lineNumber : Nat) (hothers : InRange counts above) :
    lineSteps counts lineNumber 0 (Carry.of above) pieces = .ok out ↔
      ∃ row, LineReads pieces row ∧ EverySum (0 ≤ ·) (numbers 0 row) ∧
        InRange counts (above ++ row) ∧
          out = (segmentsFrom above [] row, Carry.of (above ++ row)) := by
  rw [← List.append_nil above] at hothers
  have hline := @lineSteps_eq_ok counts above [] pieces out lineNumber (everySum_nil _) hothers
  rwa [List.append_nil] at hline

/-- After lines whose sums are in range, a table is read if its pieces are runs of numbers and all
sums that end with one of them are in range. -/
theorem tableSteps_eq_ok {counts : Counts} {above : List (List Int)} {texts : List Text}
    {lines : List (List Segment)} (lineNumber : Nat) (hothers : InRange counts above) :
    tableSteps counts lineNumber (Carry.of above) texts = .ok lines ↔
      ∃ rows, List.Forall₂ (fun line row => LineReads (line.pieces ',') row) texts rows ∧
        (∀ row ∈ rows, EverySum (0 ≤ ·) (numbers 0 row)) ∧
          InRange counts (above ++ rows.flatten) ∧
            lines = (linesFrom above rows).map sortByColumn := by
  -- the pieces of the lines above are what the next line starts from
  induction texts generalizing above lineNumber lines with
  | nil => simp [tableSteps, hothers, linesFrom, eq_comm]
  | cons text rest ih =>
    simp only [tableSteps, bind_eq_ok, lineSteps_start_eq_ok lineNumber hothers,
      List.forall₂_cons_left_iff]
    constructor
    · rintro ⟨_, ⟨row, hrow, hcolumns, hother, rfl⟩, others, hrest, heq⟩
      obtain ⟨rows, hrows, hcolumns', hothers', rfl⟩ := (ih _ hother).1 hrest
      cases heq
      refine ⟨row :: rows, ⟨row, rows, hrow, hrows, rfl⟩,
        List.forall_mem_cons.2 ⟨hcolumns, hcolumns'⟩, ?_, ?_⟩
      · rwa [List.flatten_cons, ← List.append_assoc]
      · rw [linesFrom_cons, List.map_cons]
    · rintro ⟨_, ⟨row, rows, hrow, hrows, rfl⟩, hcolumns, hothers', rfl⟩
      obtain ⟨hcolumn, hcolumns'⟩ := List.forall_mem_cons.1 hcolumns
      rw [List.flatten_cons, ← List.append_assoc] at hothers'
      have hother := hothers'.of_append
      refine ⟨_, ⟨row, hrow, hcolumn, hother, rfl⟩, _,
        (ih _ hother).2 ⟨rows, hrows, hcolumns', hothers', rfl⟩, ?_⟩
      rw [linesFrom_cons, List.map_cons]

/-! ### Sorted lines -/

theorem mem_of_filter_eq {xs ys : List Segment} (h : ∀ column,
    xs.filter (·.generatedColumn = column) = ys.filter (·.generatedColumn = column)) {s : Segment}
    (hs : s ∈ xs) : s ∈ ys := by
  have hfilter : s ∈ xs.filter (·.generatedColumn = s.generatedColumn) := by simpa using hs
  rw [h] at hfilter
  exact List.mem_of_mem_filter hfilter

theorem column_le_of_mem {x s : Segment} {xs : List Segment}
    (h : (x :: xs).Pairwise fun a b => a.generatedColumn ≤ b.generatedColumn)
    (hs : s ∈ x :: xs) : x.generatedColumn ≤ s.generatedColumn := by
  rcases List.mem_cons.1 hs with rfl | hs
  · exact Int.le_refl _
  · exact List.rel_of_pairwise_cons h hs

/-- Sorted lists that have the same segments of each column, in the same order, are the same. -/
theorem eq_of_filter_eq {xs ys : List Segment}
    (hxs : xs.Pairwise fun a b => a.generatedColumn ≤ b.generatedColumn)
    (hys : ys.Pairwise fun a b => a.generatedColumn ≤ b.generatedColumn)
    (h : ∀ column, xs.filter (·.generatedColumn = column) =
      ys.filter (·.generatedColumn = column)) : xs = ys := by
  induction xs generalizing ys with
  | nil =>
    symm
    rw [List.eq_nil_iff_forall_not_mem]
    exact fun s hs => List.not_mem_nil (mem_of_filter_eq (fun column => (h column).symm) hs)
  | cons x xs ih =>
    cases ys with
    | nil => exact absurd (mem_of_filter_eq h List.mem_cons_self) List.not_mem_nil
    | cons y ys =>
      -- each head is at or before the other, so they are of one column
      have hyx := column_le_of_mem hys (mem_of_filter_eq h List.mem_cons_self)
      have hxy := column_le_of_mem hxs
        (mem_of_filter_eq (fun column => (h column).symm) List.mem_cons_self)
      have hcolumn : y.generatedColumn = x.generatedColumn := Int.le_antisymm hyx hxy
      have hhead := h x.generatedColumn
      rw [List.filter_cons_of_pos (by simp), List.filter_cons_of_pos (by simpa using hcolumn)]
        at hhead
      obtain ⟨rfl, -⟩ := List.cons.inj hhead
      refine congrArg (x :: ·) (ih hxs.of_cons hys.of_cons fun column => ?_)
      have htail := h column
      by_cases hx : x.generatedColumn = column
      · simpa [hx] using htail
      · simpa [hx] using htail

theorem stablySorted_iff {before after : List Segment} :
    StablySorted before after ↔ sortByColumn before = after := by
  have hsorted := stablySorted_sortByColumn before
  constructor
  · intro h
    refine eq_of_filter_eq hsorted.sorted h.sorted fun column => ?_
    rw [hsorted.stable, h.stable]
  · rintro rfl
    exact hsorted

theorem forall₂_stablySorted_iff {befores afters : List (List Segment)} :
    List.Forall₂ StablySorted befores afters ↔ afters = befores.map sortByColumn := by
  have hsame : StablySorted = fun before after => sortByColumn before = after := by
    funext before after
    exact propext stablySorted_iff
  rw [hsame, ← List.forall₂_map_left_iff, List.forall₂_eq_eq_eq, eq_comm]

/-- **A table is what the sums of its numbers say.** It is read if every piece that is not empty is
a run of one, four or five numbers and all running sums are in range: of the columns, over each
line; of the sources, which are to be below their count where it is known, of the lines and of the
columns in them, over the pieces of the table that have them; and of the names, below their count
too. There is then a line for each line of the table, the stable sort by the column of the segments
that these sums make up. -/
theorem decode_prefixSums (counts : Counts) (table : Text) :
    ((∃ lines, decode counts table = .ok lines) ↔
        ∃ rows, TableReads table rows ∧ Fits counts rows) ∧
      ∀ lines, decode counts table = .ok lines ↔ ∃ rows, TableReads table rows ∧ Fits counts rows ∧
        List.Forall₂ StablySorted (linesFrom [] rows) lines := by
  have hlines : ∀ lines, decode counts table = .ok lines ↔ ∃ rows, TableReads table rows ∧
      Fits counts rows ∧ List.Forall₂ StablySorted (linesFrom [] rows) lines := by
    intro lines
    rw [decode, show Carry.start = Carry.of [] from rfl, tableSteps_eq_ok 0 (inRange_nil counts)]
    simp only [List.nil_append, forall₂_stablySorted_iff]
    constructor
    · rintro ⟨rows, hreads, hcolumns, hothers, hlines⟩
      exact ⟨rows, hreads, ⟨hcolumns, hothers⟩, hlines⟩
    · rintro ⟨rows, hreads, ⟨hcolumns, hothers⟩, hlines⟩
      exact ⟨rows, hreads, hcolumns, hothers, hlines⟩
  refine ⟨⟨?_, ?_⟩, hlines⟩
  · rintro ⟨lines, h⟩
    obtain ⟨rows, hreads, hfits, -⟩ := (hlines lines).1 h
    exact ⟨rows, hreads, hfits⟩
  · rintro ⟨rows, hreads, hfits⟩
    exact ⟨_, (hlines _).2 ⟨rows, hreads, hfits, forall₂_stablySorted_iff.2 rfl⟩⟩

-- a piece of one number asks nothing of the sources, not even that there is one
example : decode ⟨some 0, some 0⟩ "E,,D;G".toList = .ok [[], []] := by cbv

end Retrace.Mappings

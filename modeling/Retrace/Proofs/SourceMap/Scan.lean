import Retrace.Proofs.SourceMap.Locate

/-!
# Looking places up by a scan

A place is looked up by halving its line, which is right because every line of a table that was
read is sorted, and by going up from there to the nearest line that has a segment. What is found is
what a scan of the whole table finds: the last segment of the line, as it is stored, that is not
behind the column, or else the first segment of the last line above that is not empty.

* `SourceMap.Scanned`: what a scan finds for a place;
* `SourceMap.Describes`: the place in a source that a segment stands for;
* `lastLineStart_eq_some`: the search upwards, by the numbers of the lines;
* `scanned_segmentFor`: the segment that is looked up is the one that a scan finds.

Main statement: `find?_scanned`.
-/

namespace Retrace.SourceMap

variable {m : SourceMap} {line column : Int}

/-- Whether a line of a map starts no segment at or before a column; a line past the table starts
none at all. -/
def StartsNone (m : SourceMap) (line column : Int) : Prop :=
  ∀ row, m.lines[line.toNat]? = some row → ∀ s ∈ row, column < s.generatedColumn

/-- Whether the lines of a map after a number and before a line are empty. -/
def EmptyBetween (m : SourceMap) (number : Nat) (line : Int) : Prop :=
  ∀ other, number ≤ other → (other : Int) < line → ∀ row, m.lines[other]? = some row → row = []

/-- What a scan of a map finds for a generated place. -/
inductive Scanned (m : SourceMap) (line column : Int) : Option Segment → Prop
  /-- There is no such place. -/
  | nowhere (h : line < 0 ∨ column < 0) : Scanned m line column none
  /-- The last segment of the line, as it is stored, at or before the column. -/
  | own {row : List Segment} {s : Segment} (hline : 0 ≤ line) (hcolumn : 0 ≤ column)
      (hrow : m.lines[line.toNat]? = some row)
      (hs : (row.filter (·.generatedColumn ≤ column)).getLast? = some s) :
      Scanned m line column (some s)
  /-- The first segment of the last line above that is not empty. -/
  | above {number : Nat} {s : Segment} {rest : List Segment} (hline : 0 ≤ line)
      (hcolumn : 0 ≤ column) (hown : m.StartsNone line column) (hnumber : (number : Int) < line)
      (hrow : m.lines[number]? = some (s :: rest)) (hempty : m.EmptyBetween (number + 1) line) :
      Scanned m line column (some s)
  /-- All lines above are empty. -/
  | alone (hline : 0 ≤ line) (hcolumn : 0 ≤ column) (hown : m.StartsNone line column)
      (hempty : m.EmptyBetween 0 line) : Scanned m line column none

/-- Whether a place in a source is the one that a segment stands for. -/
structure Describes (m : SourceMap) (s : Segment) (place : SourcePlace) : Prop where
  line : place.line = s.sourceLine
  column : place.column = s.sourceColumn
  sourceIndex : place.sourceIndex = s.sourceIndex
  source : 0 ≤ s.sourceIndex ∧ ∃ source, m.sources[s.sourceIndex.toNat]? = some source ∧
    place.source = rooted m.sourceRoot source
  named : ∀ index, s.nameIndex = some index → 0 ≤ index ∧ ∃ name,
    m.names[index.toNat]? = some name ∧ place.name = some name
  nameless : s.nameIndex = none → place.name = none

/-! ### The search upwards -/

theorem lastLineStart_eq_some {lines : List (List Segment)} {s : Segment}
    (h : lastLineStart lines = some s) :
    ∃ (number : Nat) (rest : List Segment), lines[number]? = some (s :: rest) ∧
      ∀ (other : Nat) (row : List Segment), number < other → lines[other]? = some row →
        row = [] := by
  obtain ⟨after, row, before, hlines, hhead, hempty⟩ := List.findSome?_eq_some_iff.1 h
  obtain ⟨rest, rfl⟩ := List.head?_eq_some_iff.1 hhead
  rw [List.reverse_eq_iff, List.reverse_append, List.reverse_cons, List.append_assoc,
    List.singleton_append] at hlines
  subst hlines
  refine ⟨before.reverse.length, rest, ?_, fun other row hlt hrow => ?_⟩
  · simp
  · obtain ⟨steps, rfl⟩ := Nat.exists_eq_add_of_lt hlt
    rw [List.getElem?_append_right (by omega),
      show before.reverse.length + steps + 1 - before.reverse.length = steps + 1 by omega,
      List.getElem?_cons_succ] at hrow
    exact List.head?_eq_none_iff.1 (hempty row (List.mem_reverse.1 (List.mem_of_getElem? hrow)))

theorem lastLineStart_eq_none {lines : List (List Segment)} (h : lastLineStart lines = none)
    {row : List Segment} (hrow : row ∈ lines) : row = [] :=
  List.head?_eq_none_iff.1 (List.findSome?_eq_none_iff.1 h row (List.mem_reverse.2 hrow))

/-- Without a segment of its own line a place is looked up above it. -/
theorem scanned_lastLineStart (hline : 0 ≤ line) (hcolumn : 0 ≤ column)
    (hown : m.StartsNone line column) :
    m.Scanned line column (lastLineStart (m.lines.take line.toNat)) := by
  cases hfound : lastLineStart (m.lines.take line.toNat) with
  | none =>
    refine .alone hline hcolumn hown fun other _ hother row hrow => ?_
    refine lastLineStart_eq_none hfound (List.mem_of_getElem? (i := other) ?_)
    rw [List.getElem?_take_of_lt (by omega), hrow]
  | some s =>
    obtain ⟨number, rest, hrow, hempty⟩ := lastLineStart_eq_some hfound
    obtain ⟨hnumber, -⟩ := List.getElem?_eq_some_iff.1 hrow
    rw [List.length_take] at hnumber
    rw [List.getElem?_take_of_lt (by omega)] at hrow
    refine .above hline hcolumn hown (by omega) hrow fun other hafter hother row hrow => ?_
    refine hempty other row (by omega) ?_
    rw [List.getElem?_take_of_lt (by omega), hrow]

/-! ### The segment of a place -/

/-- Over sorted lines the segment that is looked up is the one that a scan finds. -/
theorem scanned_segmentFor (hsorted : ∀ row ∈ m.lines,
    row.Pairwise fun a b => a.generatedColumn ≤ b.generatedColumn) (line column : Int) :
    m.Scanned line column (m.segmentFor line column) := by
  rw [segmentFor]
  split
  · exact .nowhere ‹_›
  · rename_i hplace
    rw [not_or, Int.not_lt, Int.not_lt] at hplace
    obtain ⟨hline, hcolumn⟩ := hplace
    cases hrow : m.lines[line.toNat]? with
    | none =>
      rw [List.getD_eq_getElem?_getD, hrow, Option.getD_none, lastUpTo_eq .nil, List.filter_nil,
        List.getLast?_nil, Option.none_or]
      refine scanned_lastLineStart hline hcolumn fun row hrow' => ?_
      rw [hrow] at hrow'
      cases hrow'
    | some row =>
      rw [List.getD_eq_getElem?_getD, hrow, Option.getD_some,
        lastUpTo_eq (hsorted row (List.mem_of_getElem? hrow))]
      cases hlast : (row.filter (·.generatedColumn ≤ column)).getLast? with
      | some s => exact .own hline hcolumn hrow hlast
      | none =>
        refine scanned_lastLineStart hline hcolumn fun row' hrow' s hs => ?_
        rw [hrow, Option.some.injEq] at hrow'
        subst hrow'
        rw [List.getLast?_eq_none_iff, List.filter_eq_nil_iff] at hlast
        simpa using hlast s hs

/-- A line that starts no segment at or before a column has none to choose from. -/
theorem StartsNone.getLast?_eq_none (h : m.StartsNone line column) {row : List Segment}
    (hrow : m.lines[line.toNat]? = some row) :
    (row.filter (·.generatedColumn ≤ column)).getLast? = none := by
  rw [List.getLast?_eq_none_iff, List.filter_eq_nil_iff]
  intro s hs
  have := h row hrow s hs
  rw [decide_eq_true_eq]
  omega

/-- A scan finds one thing only. -/
theorem Scanned.unique {found other : Option Segment} (h : m.Scanned line column found)
    (hother : m.Scanned line column other) : other = found := by
  cases h with
  | nowhere h =>
    cases hother with
    | nowhere => rfl
    | own hline hcolumn => omega
    | above hline hcolumn => omega
    | alone hline hcolumn => rfl
  | own hline hcolumn hrow hs =>
    cases hother with
    | nowhere h => omega
    | own _ _ hrow' hs' =>
      rw [hrow, Option.some.injEq] at hrow'
      subst hrow'
      rw [← hs, hs']
    | above _ _ hown =>
      rw [hown.getLast?_eq_none hrow] at hs
      cases hs
    | alone _ _ hown =>
      rw [hown.getLast?_eq_none hrow] at hs
      cases hs
  | @above number s rest hline hcolumn hown hnumber hrow hempty =>
    cases hother with
    | nowhere h => omega
    | own _ _ hrow' hs' =>
      rw [hown.getLast?_eq_none hrow'] at hs'
      cases hs'
    | @above number' s' rest' _ _ _ hnumber' hrow' hempty' =>
      -- the greater of the two numbers would be of an empty line
      rcases Nat.lt_trichotomy number number' with hlt | rfl | hlt
      · cases hempty number' hlt hnumber' _ hrow'
      · rw [hrow] at hrow'
        cases hrow'
        rfl
      · cases hempty' number hlt hnumber _ hrow
    | alone _ _ _ hempty' => cases hempty' number (Nat.zero_le _) hnumber _ hrow
  | alone hline hcolumn hown hempty =>
    cases hother with
    | nowhere h => rfl
    | own _ _ hrow' hs' =>
      rw [hown.getLast?_eq_none hrow'] at hs'
      cases hs'
    | @above number' s' rest' _ _ _ hnumber' hrow' _ =>
      cases hempty number' (Nat.zero_le _) hnumber' _ hrow'
    | alone => rfl

/-! ### The place of a segment -/

/-- Every segment of a map that was read from a payload stands for a place. -/
theorem FromPayload.exists_describes (h : m.FromPayload) {s : Segment} {line column : Int}
    (hs : m.segmentFor line column = some s) :
    ∃ place, m.find? line column = .ok (some place) ∧ m.Describes s place := by
  obtain ⟨p, lines, hdecode, rfl⟩ := h
  obtain ⟨row, hrow, hmem⟩ := mem_of_segmentFor hs
  have hvalid := ((Mappings.valid_of_decode hdecode).2 row hrow).1 s hmem
  have hindex := hvalid.sourceIndex
  have hlt := hvalid.source_lt _ rfl
  have hsource := List.getElem?_eq_getElem (show s.sourceIndex.toNat < p.sources.length by omega)
  refine ⟨_, find?_of_segmentFor hs hindex hsource, rfl, rfl, rfl, ⟨hindex, _, hsource, rfl⟩,
    fun name hname => ?_, fun hname => ?_⟩
  · have hnonneg := hvalid.nameIndex name hname
    have hbelow := hvalid.name_lt name hname _ rfl
    have htext := List.getElem?_eq_getElem (show name.toNat < p.names.length by omega)
    refine ⟨hnonneg, _, htext, ?_⟩
    rw [hname]
    exact htext
  · rw [hname]
    rfl

/-- **Looking a place up is a scan of the table.** For every map that is made of a value and every
place, a scan finds one thing, and the place is looked up without a failure: it leads nowhere if the
scan finds no segment, and otherwise to the place that the segment stands for. -/
theorem find?_scanned {payload : Json} (h : ofJson payload = .ok m) (line column : Int) :
    ∃ found place?, m.Scanned line column found ∧ (∀ other, m.Scanned line column other →
      other = found) ∧ m.find? line column = .ok place? ∧ Option.Rel m.Describes found place? := by
  have hpayload := fromPayload_of_ofJson h
  have hsorted : ∀ row ∈ m.lines,
      row.Pairwise fun a b => a.generatedColumn ≤ b.generatedColumn := by
    obtain ⟨p, lines, hdecode, rfl⟩ := hpayload
    exact fun row hrow => ((Mappings.valid_of_decode hdecode).2 row hrow).2
  have hscanned := scanned_segmentFor hsorted line column
  cases hfound : m.segmentFor line column with
  | none =>
    rw [hfound] at hscanned
    exact ⟨none, none, hscanned, fun other => hscanned.unique, by rw [find?, hfound], .none⟩
  | some s =>
    rw [hfound] at hscanned
    obtain ⟨place, hplace, hdescribes⟩ := hpayload.exists_describes hfound
    exact ⟨some s, some place, hscanned, fun other => hscanned.unique, hplace, .some hdescribes⟩

/-- A payload of two sources and two names. -/
def scatteredPayload : Payload :=
  ⟨["a.ts".toList, "b.ts".toList], ["f".toList, "g".toList], [], "src/".toList, none,
    "KAAG,H;;ICoBHC,JDbC,IAPDD".toList⟩

/-- The fields of the payload. -/
def scatteredFields : Json.Fields :=
  [("version".toList, .int 3), ("sources".toList, .arr [.str "a.ts".toList, .str "b.ts".toList]),
    ("names".toList, .arr [.str "f".toList, .str "g".toList]),
    ("sourceRoot".toList, .str "src/".toList),
    ("mappings".toList, .str "KAAG,H;;ICoBHC,JDbC,IAPDD".toList)]

/-- The lines of the payload: the second is empty, and the third has two segments of one column. -/
def scatteredLines : List (List Segment) :=
  [[⟨5, 0, 0, 3, none⟩], [],
    [⟨0, 0, 7, 1, none⟩, ⟨4, 1, 20, 0, some 1⟩, ⟨4, 0, 0, 0, some 0⟩]]

theorem find?_scanned_scattered :
    let m := scatteredPayload.toMap scatteredLines
    ofJson (.obj scatteredFields) = .ok m ∧ m.Scanned 2 9 (some ⟨4, 0, 0, 0, some 0⟩) ∧
      ∃ place, m.find? 2 9 = .ok (some place) ∧ m.Describes ⟨4, 0, 0, 0, some 0⟩ place := by
  have hcarried : scatteredPayload.Carried scatteredFields :=
    ⟨rfl, rfl, .arr [_, _], .arr [_, _], .null, .text _, rfl, rfl⟩
  have hlines : linesOf scatteredPayload.counts scatteredPayload.table = .ok scatteredLines :=
    linesOf_eq_ok.2 (by cbv)
  have hmap : ofJson (.obj scatteredFields) = .ok (scatteredPayload.toMap scatteredLines) := by
    rw [ofJson, ofFields_of_carried hcarried, hlines]
    rfl
  have hown : (scatteredPayload.toMap scatteredLines).Scanned 2 9 (some ⟨4, 0, 0, 0, some 0⟩) :=
    .own (by decide) (by decide) rfl rfl
  obtain ⟨found, place?, -, hunique, hplace, hdescribes⟩ := find?_scanned hmap 2 9
  rw [← hunique _ hown] at hdescribes
  refine ⟨hmap, hown, ?_⟩
  cases hdescribes with
  | some hdescribes => exact ⟨_, hplace, hdescribes⟩

end Retrace.SourceMap

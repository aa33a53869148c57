import Retrace.Proofs.SourceMap.Payload

/-!
# Looking places up

The segments of a decoded line that start at or before a column stand at its front, so the last of
them is the one of the greatest column. Since lines are sorted stably, it is also the last of that
column in the table.

* `countUpTo_eq`, `lastUpTo_eq`: halving a line finds what a scan of it finds;
* `ChosenUpTo`: the segment that counts, in terms of the table;
* `SourceMap.exists_lastUpTo`: it is the one that is looked up.

Main statements: `find?_toMap` and `contentFor_toMap_eq`.
-/

namespace Retrace

/-- The segment that counts for a column: of the segments at or before it the last one of the
greatest column. -/
structure ChosenUpTo (column : Int) (segments : List Segment) (s : Segment) : Prop where
  le : s.generatedColumn ≤ column
  greatest : ∀ other ∈ segments, other.generatedColumn ≤ column →
    other.generatedColumn ≤ s.generatedColumn
  last : (segments.filter (·.generatedColumn = s.generatedColumn)).getLast? = some s

namespace Mappings.StablySorted

variable {before after : List Segment}

theorem mem_iff (h : StablySorted before after) (s : Segment) : s ∈ after ↔ s ∈ before := by
  have hself : ∀ segments : List Segment,
      s ∈ segments ↔ s ∈ segments.filter (·.generatedColumn = s.generatedColumn) := by
    intro segments
    simp
  rw [hself after, hself before, h.stable s.generatedColumn]

end Mappings.StablySorted

namespace SourceMap

/-- In a sorted line the segments at or before a column stand at the front. -/
theorem takeWhile_eq_filter {segments : List Segment}
    (h : segments.Pairwise fun a b => a.generatedColumn ≤ b.generatedColumn) (column : Int) :
    segments.takeWhile (·.generatedColumn ≤ column) =
      segments.filter (·.generatedColumn ≤ column) := by
  induction segments with
  | nil => rfl
  | cons s rest ih =>
    obtain ⟨hfirst, hrest⟩ := List.pairwise_cons.1 h
    by_cases hs : s.generatedColumn ≤ column
    · rw [List.takeWhile_cons_of_pos (by simpa using hs),
        List.filter_cons_of_pos (by simpa using hs), ih hrest]
    · rw [List.takeWhile_cons_of_neg (by simpa using hs),
        List.filter_cons_of_neg (by simpa using hs)]
      refine (List.filter_eq_nil_iff.2 fun other hother => ?_).symm
      have := hfirst other hother
      simp only [decide_eq_true_eq]
      omega

section Halves

variable {front after : List Segment} {s : Segment} {column : Int}

/-- A segment behind a column leaves only those before it. -/
theorem filter_of_lt (h : (front ++ s :: after).Pairwise fun a b =>
    a.generatedColumn ≤ b.generatedColumn) (hs : column < s.generatedColumn) :
    (front ++ s :: after).filter (·.generatedColumn ≤ column) =
      front.filter (·.generatedColumn ≤ column) := by
  have hbehind : ∀ other ∈ s :: after, ¬ decide (other.generatedColumn ≤ column) = true := by
    intro other hother
    rw [decide_eq_true_eq]
    rcases List.mem_cons.1 hother with rfl | hafter
    · omega
    · have := (List.pairwise_cons.1 (List.pairwise_append.1 h).2.1).1 other hafter
      omega
  rw [List.filter_append, List.filter_eq_nil_iff.2 hbehind, List.append_nil]

/-- A segment at or before a column keeps all those before it. -/
theorem filter_of_le (h : (front ++ s :: after).Pairwise fun a b =>
    a.generatedColumn ≤ b.generatedColumn) (hs : s.generatedColumn ≤ column) :
    (front ++ s :: after).filter (·.generatedColumn ≤ column) =
      front ++ s :: after.filter (·.generatedColumn ≤ column) := by
  have hbefore : ∀ other ∈ front, decide (other.generatedColumn ≤ column) = true := by
    intro other hother
    have := (List.pairwise_append.1 h).2.2 other hother s List.mem_cons_self
    rw [decide_eq_true_eq]
    omega
  rw [List.filter_append, List.filter_eq_self.2 hbefore,
    List.filter_cons_of_pos (by simpa using hs)]

end Halves

/-- Halving a sorted line counts the segments at or before a column. -/
theorem countUpTo_eq {segments : List Segment}
    (h : segments.Pairwise fun a b => a.generatedColumn ≤ b.generatedColumn) (column : Int) :
    countUpTo column segments = (segments.filter (·.generatedColumn ≤ column)).length := by
  -- the half that is left out has no segment that counts, or nothing else
  fun_induction countUpTo column segments with
  | case1 segments hmiddle =>
    have hlength := List.drop_eq_nil_iff.1 hmiddle
    rw [List.length_eq_zero_iff.1 (show segments.length = 0 by omega)]
    rfl
  | case2 segments s after hmiddle hs ih =>
    have hsplit := List.take_append_drop (segments.length / 2) segments
    rw [hmiddle] at hsplit
    have hfilter := filter_of_lt (hsplit.symm ▸ h) hs
    rw [hsplit] at hfilter
    rw [hfilter, ih (h.sublist (List.take_sublist _ _))]
  | case3 segments s after hmiddle hs ih =>
    have hsplit := List.take_append_drop (segments.length / 2) segments
    rw [hmiddle] at hsplit
    have hfilter := filter_of_le (hsplit.symm ▸ h) (Int.not_lt.1 hs)
    rw [hsplit] at hfilter
    have hafter := h.sublist (List.drop_sublist (segments.length / 2) segments)
    rw [hmiddle] at hafter
    rw [hfilter, ih (List.pairwise_cons.1 hafter).2, List.length_append, List.length_take,
      List.length_cons]
    omega

/-- The segment before the place that halving a sorted line finds is the last one at or before the
column. -/
theorem lastUpTo_eq {segments : List Segment}
    (h : segments.Pairwise fun a b => a.generatedColumn ≤ b.generatedColumn) (column : Int) :
    lastUpTo column segments = (segments.filter (·.generatedColumn ≤ column)).getLast? := by
  have hsplit := List.takeWhile_append_dropWhile (p := (·.generatedColumn ≤ column)) (l := segments)
  rw [takeWhile_eq_filter h] at hsplit
  rw [lastUpTo, countUpTo_eq h, List.getLast?_eq_getElem?]
  generalize segments.filter (·.generatedColumn ≤ column) = front at hsplit
  cases hcount : front.length with
  | zero => rw [List.length_eq_zero_iff.1 hcount]; rfl
  | succ count =>
    dsimp only
    rw [← hsplit, List.getElem?_append_left (by omega)]
    rfl

/-- What is looked up in a line is one of its segments. -/
theorem mem_of_lastUpTo {segments : List Segment} {column : Int} {s : Segment}
    (h : lastUpTo column segments = some s) : s ∈ segments := by
  rw [lastUpTo] at h
  split at h
  · cases h
  · exact List.mem_of_getElem? h

/-- What is looked up in a stably sorted line is the segment that counts. -/
theorem exists_lastUpTo {before after : List Segment} (h : Mappings.StablySorted before after)
    {column : Int} (hsome : ∃ s ∈ before, s.generatedColumn ≤ column) :
    ∃ s ∈ before, lastUpTo column after = some s ∧ ChosenUpTo column before s := by
  rw [lastUpTo_eq h.sorted]
  have hmem : ∀ {s}, s ∈ after.filter (·.generatedColumn ≤ column) ↔
      s ∈ before ∧ s.generatedColumn ≤ column := by
    intro s
    rw [List.mem_filter, h.mem_iff, decide_eq_true_eq]
  obtain ⟨other, hother⟩ := hsome
  have hne : after.filter (·.generatedColumn ≤ column) ≠ [] :=
    List.ne_nil_of_mem (hmem.2 hother)
  obtain ⟨s, hlast⟩ := Option.isSome_iff_exists.1 (List.getLast?_isSome.2 hne)
  obtain ⟨front, hfront⟩ := List.getLast?_eq_some_iff.1 hlast
  have hs := hmem.1 (List.mem_of_getLast? hlast)
  refine ⟨s, hs.1, hlast, hs.2, fun other hother hle => ?_, ?_⟩
  · have hsorted := h.sorted.filter (·.generatedColumn ≤ column)
    have hin := hmem.2 ⟨hother, hle⟩
    rw [hfront] at hsorted hin
    rcases List.mem_append.1 hin with hin | hin
    · exact (List.pairwise_append.1 hsorted).2.2 other hin s List.mem_cons_self
    · exact Int.le_of_eq (congrArg Segment.generatedColumn (List.mem_singleton.1 hin))
  · -- the segments of the column are all at or before it, and the last of these ends them
    have hsplit : after.filter (·.generatedColumn = s.generatedColumn) =
        (after.filter (·.generatedColumn ≤ column)).filter
          (·.generatedColumn = s.generatedColumn) := by
      rw [List.filter_filter]
      refine List.filter_congr fun other _ => ?_
      have := hs.2
      by_cases hother : other.generatedColumn = s.generatedColumn <;> simp [hother, this]
    rw [← h.stable, hsplit, hfront, List.filter_append,
      List.filter_cons_of_pos (by simp), List.filter_nil, List.getLast?_concat]

variable {p : Payload} {lines : List (List Segment)}

/-- A source that the payload has is found by its index. -/
theorem sourcePath?_toMap {index : Int} (h0 : 0 ≤ index) {source : Text}
    (h : p.sources[index.toNat]? = some source) :
    (p.toMap lines).sourcePath? index = some (rooted p.sourceRoot source) := by
  rw [sourcePath?, entryAt?, if_neg (by omega), if_neg (by omega)]
  show (p.sources[index.toNat]?).map (rooted p.sourceRoot) = _
  rw [h]
  rfl

/-- The contents that a map carries are those of its payload, as far as it has sources for them. -/
theorem contentFor_toMap_eq (index : Int) :
    (p.toMap lines).contentFor index =
      if 0 ≤ index ∧ index < p.contents.length ∧ index < p.sources.length then
        p.contents[index.toNat]?.join
      else none := by
  rw [contentFor]
  by_cases hnonneg : 0 ≤ index
  swap
  · rw [if_neg hnonneg, if_neg fun h => hnonneg h.1]
  rw [if_pos hnonneg]
  show ((fitted p.sources.length p.contents)[index.toNat]?).join = _
  by_cases hsource : index < p.sources.length
  · rw [getElem?_fitted (by omega), Option.join_some]
    by_cases hcontent : index < p.contents.length
    · rw [if_pos ⟨hnonneg, hcontent, hsource⟩]
    · rw [if_neg fun h => hcontent h.2.1, List.getElem?_eq_none (by omega)]
      rfl
  · rw [if_neg fun h => hsource h.2.2, List.getElem?_eq_none (by rw [length_fitted]; omega)]
    rfl

/-- A content that the payload has for one of its sources is carried. -/
theorem contentFor_toMap {index : Int} (h0 : 0 ≤ index) {content : Text}
    (hlt : index.toNat < p.sources.length) (h : p.contents[index.toNat]? = some (some content)) :
    (p.toMap lines).contentFor index = some content := by
  have hcontent : index.toNat < p.contents.length := (List.getElem?_eq_some_iff.1 h).1
  rw [contentFor_toMap_eq, if_pos ⟨h0, by omega, by omega⟩, h]
  rfl

/-- A segment that is looked up leads to its source. -/
theorem find?_of_segmentFor {line column : Int} {s : Segment}
    (hs : (p.toMap lines).segmentFor line column = some s) (h0 : 0 ≤ s.sourceIndex) {source : Text}
    (hsource : p.sources[s.sourceIndex.toNat]? = some source) :
    (p.toMap lines).find? line column =
      .ok (some ⟨rooted p.sourceRoot source, s.sourceLine, s.sourceColumn, s.sourceIndex,
        (p.toMap lines).nameAt s.nameIndex⟩) := by
  rw [find?, hs]
  simp only [placeOf?, sourcePath?_toMap h0 hsource, Option.map_some]

/-- The place of a generated one is that of the segment that is last up to it in its line. -/
theorem find?_toMap {line column : Int} (hline : 0 ≤ line) (hcolumn : 0 ≤ column)
    {row : List Segment} (hrow : lines[line.toNat]? = some row) {s : Segment}
    (hs : lastUpTo column row = some s) (h0 : 0 ≤ s.sourceIndex) {source : Text}
    (hsource : p.sources[s.sourceIndex.toNat]? = some source) :
    (p.toMap lines).find? line column =
      .ok (some ⟨rooted p.sourceRoot source, s.sourceLine, s.sourceColumn, s.sourceIndex,
        (p.toMap lines).nameAt s.nameIndex⟩) := by
  refine find?_of_segmentFor ?_ h0 hsource
  rw [segmentFor, if_neg (by omega), List.getD_eq_getElem?_getD]
  show (lastUpTo column ((lines[line.toNat]?).getD [])).or _ = _
  rw [hrow]
  show (lastUpTo column row).or _ = _
  rw [hs]
  rfl

end SourceMap

end Retrace

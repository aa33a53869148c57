import Mathlib
import Retrace.Proofs.Frame.Basic
import Retrace.Proofs.Frame.Grammar
import Retrace.Resolver.Trace

/-!
# Reading stacks and records

A line or a record that is rejected is left out, and the frames of the others are kept. One that is
neither a raw frame nor rejected takes all the frames with it: a line with a number of too many
digits, and a record with such a number, with a digit that has no place in a numeral, or with a
negative number that is too long to be told.

* `LineHazard`, `RecordHazard`: the lines and the records of this kind;
* `settled_ofLine_iff`, `settled_ofRecord_iff`: all others are raw frames or rejected;
* `keptAll_eq_ok`: what is kept of a list of readings.

Main statement: `Reader.raws_eq_ok_iff`, what is read from a stack and from records.
-/

namespace Retrace

/-! ### Positions in decimal digits -/

theorem positionHazard_str_of_isDecimal {t : Text} (hdecimal : ∀ c ∈ t, isDecimal c = true) :
    PositionHazard (.str t) ↔ digitLimit < t.length := by
  constructor
  · rintro (⟨-, hc, h⟩ | ⟨-, h⟩ | -)
    · rw [hdecimal _ hc] at h
      cases h
    · exact h
  · exact .long fun c hc => isDigit_of_isDecimal (hdecimal c hc)

theorem exists_givesPosition_str {t : Text} :
    (∃ number, (Json.str t).GivesPosition number) ↔ ∃ n, readNumeral t = .ok n ∧ 1 ≤ n := by
  constructor
  · rintro ⟨_, _ | _ | ⟨hread, hpositive⟩⟩
    exact ⟨_, hread, hpositive⟩
  · rintro ⟨n, hread, hpositive⟩
    exact ⟨_, .digits hread hpositive⟩

theorem createHazard_iff {name file line column : Json} {nameText fileText : Text}
    (hname : name.GivesText nameText) (hfile : file.GivesText fileText) :
    CreateHazard name file line column ↔
      PositionHazard line ∨ (∃ number, line.GivesPosition number) ∧ PositionHazard column := by
  constructor
  · rintro (⟨-, -, h⟩ | ⟨-, -, hline, h⟩)
    · exact .inl h
    · exact .inr ⟨⟨_, hline⟩, h⟩
  · rintro (h | ⟨⟨_, hline⟩, h⟩)
    · exact .line hname hfile h
    · exact .column hname hfile hline h

/-! ### Lines -/

/-- The line number and the column of a line of a stack, in digits. -/
def FrameLine.numbers? : FrameLine → Option (Text × Text)
  | .placeless _ => none
  | .named _ _ line column => some (line, column)
  | .nameless _ line column => some (line, column)

/-- Lines of a stack that are neither a raw frame nor rejected. -/
inductive LineHazard (t : Text) : Prop
  /-- The line number has too many digits. -/
  | line {parts : FrameLine} {line column : Text} (hread : FrameLine.read? t = some parts)
      (hnumbers : parts.numbers? = some (line, column)) (h : digitLimit < line.length)
  /-- The column has too many digits, and the line number is none to reject. -/
  | column {parts : FrameLine} {line column : Text} {n : Nat}
      (hread : FrameLine.read? t = some parts) (hnumbers : parts.numbers? = some (line, column))
      (hline : readNumeral line = .ok n) (hpositive : 1 ≤ n) (h : digitLimit < column.length)

namespace FrameLine

/-- The numbers of a line that is read are decimal digits. -/
theorem isDecimal_of_read? {t : Text} {parts : FrameLine} {line column : Text}
    (h : read? t = some parts) (hnumbers : parts.numbers? = some (line, column)) :
    (∀ c ∈ line, isDecimal c = true) ∧ ∀ c ∈ column, isDecimal c = true := by
  obtain ⟨_, _, -, hbody, -⟩ := read?_eq_some_iff.1 h
  cases hbody with
  | placeless => cases hnumbers
  | named _ _ _ _ hline hcolumn =>
    cases hnumbers
    exact ⟨hline.digits, hcolumn.digits⟩
  | nameless _ _ _ hline hcolumn =>
    cases hnumbers
    exact ⟨hline.digits, hcolumn.digits⟩

/-- A line that is read comes to a raw frame or a rejection by its numbers alone. -/
theorem settled_toRawFrame_iff {parts : FrameLine} :
    Settled parts.toRawFrame ↔
      ∀ line column, parts.numbers? = some (line, column) →
        ¬ (PositionHazard (.str line) ∨
          (∃ number, (Json.str line).GivesPosition number) ∧ PositionHazard (.str column)) := by
  cases parts with
  | placeless name =>
    rw [toRawFrame, settled_create_iff, createHazard_iff (.str name) .null]
    refine iff_of_true ?_ nofun
    rintro (h | ⟨-, h⟩) <;> cases h
  | named name file line column =>
    rw [toRawFrame, settled_create_iff, createHazard_iff (.str name) (.str file)]
    simp [numbers?]
  | nameless file line column =>
    rw [toRawFrame, settled_create_iff, createHazard_iff .null (.str file)]
    simp [numbers?]

/-- A blank line is no line of a stack. -/
theorem read?_of_blank {t : Text} (h : t.trim = []) : read? t = none := by
  have hstart : t.trimStart = [] := by
    rw [Text.trim, Text.trimEnd, Text.dropEndWhile, List.reverse_eq_nil_iff,
      List.dropWhile_eq_nil_iff] at h
    cases hrest : t.trimStart with
    | nil => rfl
    | cons c rest =>
      -- the first character that is left is not blank, but all of them are
      have hblank : isBlank c = true := h c (by simp [hrest])
      have hc := List.head?_dropWhile_not isBlank t
      rw [← Text.trimStart, hrest] at hc
      simp [hblank] at hc
  rw [read?, hstart]
  rfl

end FrameLine

/-- A line of a stack is a raw frame or rejected unless one of its numbers is too long. -/
theorem settled_ofLine_iff {t : Text} : Settled (RawFrame.ofLine t) ↔ ¬ LineHazard t := by
  unfold RawFrame.ofLine
  cases hread : FrameLine.read? t with
  | none =>
    refine iff_of_true (settled_rejected _) ?_
    rintro (⟨h, -, -⟩ | ⟨h, -, -, -, -⟩) <;> rw [hread] at h <;> cases h
  | some parts =>
    rw [FrameLine.settled_toRawFrame_iff]
    -- the numbers are decimal digits, so only their length can be wrong
    constructor
    · rintro h (⟨hparts, hnumbers, hlong⟩ | ⟨hparts, hnumbers, hline, hpositive, hlong⟩)
      · rw [hread] at hparts
        cases hparts
        have hdecimal := FrameLine.isDecimal_of_read? hread hnumbers
        exact h _ _ hnumbers (.inl ((positionHazard_str_of_isDecimal hdecimal.1).2 hlong))
      · rw [hread] at hparts
        cases hparts
        have hdecimal := FrameLine.isDecimal_of_read? hread hnumbers
        exact h _ _ hnumbers (.inr ⟨⟨_, .digits hline hpositive⟩,
          (positionHazard_str_of_isDecimal hdecimal.2).2 hlong⟩)
    · intro h line column hnumbers hhazard
      have hdecimal := FrameLine.isDecimal_of_read? hread hnumbers
      rw [positionHazard_str_of_isDecimal hdecimal.1, positionHazard_str_of_isDecimal hdecimal.2,
        exists_givesPosition_str] at hhazard
      rcases hhazard with hlong | ⟨⟨n, hline, hpositive⟩, hlong⟩
      · exact h (.line hread hnumbers hlong)
      · exact h (.column hread hnumbers hline hpositive hlong)

/-! ### Records -/

/-- Records that are neither a raw frame nor rejected. -/
inductive RecordHazard : Json → Prop
  | fields {fields : Json.Fields}
      (h : CreateHazard (firstOf fields recordKeys.name) (firstOf fields recordKeys.file)
        (firstOf fields recordKeys.line) (firstOf fields recordKeys.column)) :
    RecordHazard (.obj fields)

/-- A record is a raw frame or rejected unless it has a number that is listed. -/
theorem settled_ofRecord_iff {record : Json} :
    Settled (RawFrame.ofRecord record) ↔ ¬ RecordHazard record := by
  cases record with
  | obj fields =>
    rw [RawFrame.ofRecord, settled_create_iff]
    refine not_congr ⟨.fields, ?_⟩
    rintro ⟨h⟩
    exact h
  | null => exact iff_of_true (settled_rejected _) nofun
  | bool value => exact iff_of_true (settled_rejected _) nofun
  | int value => exact iff_of_true (settled_rejected _) nofun
  | float value => exact iff_of_true (settled_rejected _) nofun
  | str value => exact iff_of_true (settled_rejected _) nofun
  | arr items => exact iff_of_true (settled_rejected _) nofun

/-! ### What is kept -/

namespace Sifted

theorem kept?_eq_ok {reading : FrameReading} {kept : Option RawFrame} :
    kept? reading = .ok kept ↔
      (∀ outcome ∈ reading, Settled outcome) ∧ kept = reading.bind Except.toOption := by
  rcases reading with _ | outcome
  · simp [kept?, eq_comm]
  · rcases outcome with (reason | fault) | raw <;> simp [kept?, Except.toOption, eq_comm]

/-- The readings that are raw frames are kept, in order, if all others are rejected. -/
theorem keptAll_eq_ok {readings : List FrameReading} {frames : List RawFrame} :
    keptAll readings = .ok frames ↔
      (∀ reading ∈ readings, ∀ outcome ∈ reading, Settled outcome) ∧
        frames = readings.filterMap fun reading => reading.bind Except.toOption := by
  induction readings generalizing frames with
  | nil => simp [keptAll, eq_comm]
  | cons reading rest ih =>
    rw [keptAll, bind_eq_ok, List.forall_mem_cons]
    simp only [bind_eq_ok, kept?_eq_ok, ih]
    constructor
    · rintro ⟨kept, ⟨hreading, rfl⟩, others, ⟨hrest, rfl⟩, h⟩
      refine ⟨⟨hreading, hrest⟩, ?_⟩
      cases h
      rw [List.filterMap_cons]
      cases reading.bind Except.toOption <;> rfl
    · rintro ⟨⟨hreading, hrest⟩, rfl⟩
      refine ⟨_, ⟨hreading, rfl⟩, _, ⟨hrest, rfl⟩, ?_⟩
      rw [List.filterMap_cons]
      cases reading.bind Except.toOption <;> rfl

/-- A line is left out if there is no raw frame in it. Blank lines are no exception. -/
theorem lineReading_bind (line : Text) :
    (lineReading line).bind Except.toOption = (RawFrame.ofLine line).toOption := by
  unfold lineReading
  by_cases h : line.trim = []
  · rw [if_pos (by simp [h]), RawFrame.ofLine, FrameLine.read?_of_blank h]
    rfl
  · rw [if_neg (by simp [h])]
    rfl

theorem settled_lineReading_iff {line : Text} :
    (∀ outcome ∈ lineReading line, Settled outcome) ↔ ¬ LineHazard line := by
  rw [← settled_ofLine_iff]
  unfold lineReading
  by_cases h : line.trim = []
  · rw [if_pos (by simp [h]), RawFrame.ofLine, FrameLine.read?_of_blank h]
    simp
  · rw [if_neg (by simp [h])]
    simp

theorem ofStack_eq_ok {stack : Text} {frames : List RawFrame} :
    (ofStack stack).outcome = .ok frames ↔
      (∀ line ∈ frameLines stack, ¬ LineHazard line) ∧
        frames = (frameLines stack).filterMap fun line => (RawFrame.ofLine line).toOption := by
  rw [ofStack, outcome_sift, keptAll_eq_ok, List.forall_mem_map, List.filterMap_map]
  simp only [settled_lineReading_iff, Function.comp_def, lineReading_bind]

theorem ofRecords_eq_ok {records : List Json} {frames : List RawFrame} :
    (ofRecords records).outcome = .ok frames ↔
      (∀ record ∈ records, ¬ RecordHazard record) ∧
        frames = records.filterMap fun record => (RawFrame.ofRecord record).toOption := by
  rw [ofRecords, outcome_sift, keptAll_eq_ok, List.forall_mem_map, List.filterMap_map]
  simp only [Option.mem_def, Option.some.injEq, forall_eq', settled_ofRecord_iff]
  rfl

end Sifted

namespace Reader

theorem ofStack_eq_ok {stack : Text} {frames : List RawFrame} :
    (ofStack stack).raws = .ok frames ↔ (Sifted.ofStack stack).outcome = .ok frames := by
  unfold ofStack
  by_cases hempty : stack = []
  · subst hempty
    simp [Sifted.ofStack, Sifted.frameLines, Sifted.sift]
  · rw [if_neg (by simpa using hempty)]
    cases h : (Sifted.ofStack stack).outcome <;> simp [h]

theorem ofRecords_eq_ok {records : List Json} {frames : List RawFrame} :
    (ofRecords records).raws = .ok frames ↔ (Sifted.ofRecords records).outcome = .ok frames := by
  unfold ofRecords
  exact mapError_eq_ok

/-- Stacks and records are read if none of their lines and records is listed, and then exactly those
that are raw frames are kept: the others are rejected. Whatever is not listed is a raw frame or
rejected, for lines, for records, and for the values that raw frames are made from. -/
theorem raws_eq_ok_iff (stack : Text) (records : List Json) (name file line column : Json) :
    (∀ frames, (ofStack stack).raws = .ok frames ↔
      (∀ t ∈ Sifted.frameLines stack, ¬ LineHazard t) ∧
        frames = (Sifted.frameLines stack).filterMap fun t => (RawFrame.ofLine t).toOption) ∧
    (∀ frames, (ofRecords records).raws = .ok frames ↔
      (∀ record ∈ records, ¬ RecordHazard record) ∧
        frames = records.filterMap fun record => (RawFrame.ofRecord record).toOption) ∧
    (∀ t, Settled (RawFrame.ofLine t) ↔ ¬ LineHazard t) ∧
    (∀ record, Settled (RawFrame.ofRecord record) ↔ ¬ RecordHazard record) ∧
    (Settled (RawFrame.create name file line column) ↔ ¬ CreateHazard name file line column) := by
  refine ⟨fun frames => ?_, fun frames => ?_, fun _ => settled_ofLine_iff,
    fun _ => settled_ofRecord_iff, settled_create_iff⟩
  · rw [ofStack_eq_ok, Sifted.ofStack_eq_ok]
  · rw [ofRecords_eq_ok, Sifted.ofRecords_eq_ok]

/-- A frame and a record whose line number is a raised two. -/
theorem ofRecords_raised_two :
    let first : Json := .obj [("functionName".toList, .str "f".toList),
      ("fileName".toList, .str "/a.js".toList), ("lineNumber".toList, .int 1),
      ("columnNumber".toList, .int 1)]
    let second : Json := .obj [("fileName".toList, .str "/b.js".toList),
      ("lineNumber".toList, .str "²".toList)]
    RawFrame.ofRecord first = .ok ⟨"f".toList, "/a.js".toList, some 1, some 1, false⟩ ∧
      (ofRecords [first, second]).raws = .error (.numeral (.notDecimal "²".toList)) := by
  constructor
  · cbv
  · cbv

end Reader

end Retrace

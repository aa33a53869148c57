import Mathlib
import Retrace.Proofs.Frame.Line
import Retrace.Proofs.Frame.Stack
import Retrace.Proofs.Text.Lines

/-!
# Printed stacks

A stack that is printed line by line is read back: each line for a frame gives that frame, and what
is blank or rejected gives none. The frames of a stack can also be given as records, and come to the
same.

* `RawFrame.WellFormed`: what every raw frame that is made is like;
* `RawFrame.toRecord`, `RawFrame.ofRecord_toRecord`: raw frames as records;
* `Prints`: the lines of a printed stack, with the frames that they print.

Main statements: `Reader.raws_ofRecords_toRecord` and `Reader.raws_of_prints`.
-/

namespace Retrace

/-! ### Raw frames as records -/

/-- What a raw frame that is made of values is like. -/
structure RawFrame.WellFormed (raw : RawFrame) : Prop where
  anonymous : raw.anonymous = true → raw.name = anonymousName
  named : raw.anonymous = false → raw.name ≠ [] ∧ raw.name.trim = raw.name
  trimmed : raw.file.trim = raw.file
  placed : raw.file = [] ∨ raw.line ≠ none
  line_pos : ∀ n, raw.line = some n → 1 ≤ n
  column_pos : ∀ n, raw.column = some n → 1 ≤ n

theorem Json.GivesPosition.pos {value : Json} {number : Option Int} {n : Int}
    (h : value.GivesPosition number) (hn : number = some n) : 1 ≤ n := by
  cases h with
  | null => cases hn
  | int hpositive =>
    cases hn
    exact hpositive
  | digits hread hpositive =>
    cases hn
    omega

theorem RawFrame.wellFormed_of_create {name file line column : Json} {raw : RawFrame}
    (h : RawFrame.create name file line column = .ok raw) : raw.WellFormed := by
  obtain ⟨nameText, fileText, lineNumber, columnNumber, -, -, hline, hcolumn, hplace, rfl⟩ :=
    create_eq_ok.1 h
  refine ⟨fun hempty => if_pos hempty, fun hname => ?_, Text.trim_trim fileText, hplace,
    fun n hn => hline.pos hn, fun n hn => hcolumn.pos hn⟩
  have hempty : ¬ nameText.trim.isEmpty = true := by
    rw [Bool.not_eq_true]
    exact hname
  dsimp only
  rw [if_neg hempty]
  exact ⟨by simpa using hempty, Text.trim_trim nameText⟩

/-- A field of a record, or none. -/
def fieldOf (key : Text) (value : Option Json) : Json.Fields :=
  (value.map fun value => (key, value)).toList

/-- The record of a raw frame. Parts that the raw frame does not have are left out. -/
def RawFrame.toRecord (raw : RawFrame) : Json :=
  .obj (fieldOf "functionName".toList (if raw.anonymous then none else some (.str raw.name)) ++
    (fieldOf "fileName".toList (if raw.file.isEmpty then none else some (.str raw.file)) ++
      (fieldOf "lineNumber".toList (raw.line.map .int) ++
        fieldOf "columnNumber".toList (raw.column.map .int))))

/-- The parts of a record are found under their keys. -/
theorem firstOf_fieldOf (name file line column : Option Json) :
    let fields := fieldOf "functionName".toList name ++ (fieldOf "fileName".toList file ++
      (fieldOf "lineNumber".toList line ++ fieldOf "columnNumber".toList column))
    firstOf fields recordKeys.name = name.getD .null ∧
      firstOf fields recordKeys.file = file.getD .null ∧
      firstOf fields recordKeys.line = line.getD .null ∧
      firstOf fields recordKeys.column = column.getD .null := by
  cases name <;> cases file <;> cases line <;> cases column <;> exact ⟨rfl, rfl, rfl, rfl⟩

theorem givesPosition_map_int {number : Option Int} (h : ∀ n, number = some n → 1 ≤ n) :
    Json.GivesPosition ((number.map Json.int).getD .null) number := by
  cases number with
  | none => exact .null
  | some n => exact .int (h n rfl)

/-- What a record says for the name gives the name, and whether there is one. -/
theorem RawFrame.WellFormed.exists_nameText {raw : RawFrame} (h : raw.WellFormed) :
    ∃ nameText, Json.GivesText
        ((if raw.anonymous then none else some (Json.str raw.name)).getD .null) nameText ∧
      (if nameText.trim.isEmpty then anonymousName else nameText.trim) = raw.name ∧
      nameText.trim.isEmpty = raw.anonymous := by
  cases hanonymous : raw.anonymous with
  | true => exact ⟨[], .null, (h.anonymous hanonymous).symm, rfl⟩
  | false =>
    obtain ⟨hne, htrim⟩ := h.named hanonymous
    have hempty : raw.name.isEmpty = false := by simpa using hne
    rw [← htrim] at hempty
    refine ⟨raw.name, .str raw.name, ?_, hempty⟩
    rw [hempty, if_neg Bool.false_ne_true]
    exact htrim

/-- A raw frame comes back from its record. -/
theorem RawFrame.ofRecord_toRecord {raw : RawFrame} (h : raw.WellFormed) :
    RawFrame.ofRecord raw.toRecord = .ok raw := by
  obtain ⟨hname, hfile, hline, hcolumn⟩ := firstOf_fieldOf
    (if raw.anonymous then none else some (.str raw.name))
    (if raw.file.isEmpty then none else some (.str raw.file)) (raw.line.map .int)
    (raw.column.map .int)
  rw [toRecord, ofRecord, hname, hfile, hline, hcolumn, create_eq_ok]
  have hfileText : Json.GivesText
      ((if raw.file.isEmpty then none else some (Json.str raw.file)).getD .null) raw.file := by
    by_cases hempty : raw.file = []
    · rw [hempty]
      exact .null
    · rw [if_neg (by simpa using hempty)]
      exact .str raw.file
  obtain ⟨nameText, hnameText, hnamed, hanonymous⟩ := h.exists_nameText
  refine ⟨nameText, raw.file, raw.line, raw.column, hnameText, hfileText,
    givesPosition_map_int h.line_pos, givesPosition_map_int h.column_pos, ?_, ?_⟩
  · rw [h.trimmed]
    exact h.placed
  · rw [h.trimmed, hnamed, hanonymous]

/-! ### Lines of a printed stack -/

/-- A line of a printed stack, with the frame that it prints. -/
inductive Prints : Text → Option RawFrame → Prop
  | named {name file : Text} {line column : Nat} (hname : name ≠ [] ∧ name.trim = name)
      (hparen : '(' ∉ name) (hfile : file ≠ [] ∧ file.trim = file)
      (hline : 1 ≤ line ∧ line < numeralBound) (hcolumn : 1 ≤ column ∧ column < numeralBound) :
      Prints (FrameLine.named name file (natText line) (natText column)).write
        (some ⟨name, file, some line, some column, false⟩)
  | placeless {name : Text} (hname : name ≠ [] ∧ name.trim = name) (hparen : '(' ∉ name) :
      Prints (FrameLine.placeless name).write (some ⟨name, [], none, none, false⟩)
  | nameless {file : Text} {line column : Nat} (hfile : file ≠ [] ∧ file.trim = file)
      (hopen : '(' ∉ file) (hclose : ')' ∉ file) (hline : 1 ≤ line ∧ line < numeralBound)
      (hcolumn : 1 ≤ column ∧ column < numeralBound) :
      Prints (FrameLine.nameless file (natText line) (natText column)).write
        (some ⟨anonymousName, file, some line, some column, true⟩)
  | blank {t : Text} (h : t.trim = []) : Prints t none
  | rejected {t : Text} {reason : Rejection} (h : RawFrame.ofLine t = .error (.rejected reason)) :
      Prints t none

theorem RawFrame.ofLine_write {parts : FrameLine} (h : parts.Legible) :
    RawFrame.ofLine parts.write = parts.toRawFrame := by
  rw [ofLine, FrameLine.read?_write h]

theorem givesPosition_natText {n : Nat} (h : 1 ≤ n ∧ n < numeralBound) :
    Json.GivesPosition (.str (natText n)) (some n) :=
  .digits (readNumeral_natText h.2) h.1

theorem RawFrame.wellFormed_of_ofLine {t : Text} {raw : RawFrame}
    (h : RawFrame.ofLine t = .ok raw) : raw.WellFormed := by
  unfold ofLine at h
  split at h
  · rename_i parts hparts
    cases parts <;> exact wellFormed_of_create h
  · cases h

/-- A line that prints a frame is read as that frame. -/
theorem Prints.ofLine_eq {t : Text} {raw : RawFrame} (h : Prints t (some raw)) (ht : t.IsLine) :
    RawFrame.ofLine t = .ok raw := by
  cases h with
  | @named name file line column hname hparen hfile hline hcolumn =>
    have hfeed : '\n' ∉ file := by
      intro hmem
      have hline : '\n' ∈ (FrameLine.named name file (natText line) (natText column)).write := by
        unfold FrameLine.write
        simp only [List.mem_append, List.mem_cons, hmem, true_or, or_true]
      cases ht '\n' hline
    rw [RawFrame.ofLine_write (.named hname.1 hparen hfile.1 hfeed (isNumberText_natText line)
      (isNumberText_natText column)), FrameLine.toRawFrame, create_eq_ok]
    refine ⟨name, file, some line, some column, .str name, .str file, givesPosition_natText hline,
      givesPosition_natText hcolumn, .inr (Option.some_ne_none _), ?_⟩
    have hempty : name.isEmpty = false := by simpa using hname.1
    rw [hname.2, hfile.2, hempty]
    rfl
  | @placeless name hname hparen =>
    rw [RawFrame.ofLine_write (.placeless hname.1 hparen), FrameLine.toRawFrame, create_eq_ok]
    refine ⟨name, [], none, none, .str name, .null, .null, .null, .inl rfl, ?_⟩
    have hempty : name.isEmpty = false := by simpa using hname.1
    rw [hname.2, hempty]
    rfl
  | @nameless file line column hfile hopen hclose hline hcolumn =>
    rw [RawFrame.ofLine_write (.nameless hfile.1 hopen hclose (isNumberText_natText line)
      (isNumberText_natText column)), FrameLine.toRawFrame, create_eq_ok]
    refine ⟨[], file, some line, some column, .null, .str file, givesPosition_natText hline,
      givesPosition_natText hcolumn, .inr (Option.some_ne_none _), ?_⟩
    rw [hfile.2]
    rfl

/-- A line that prints no frame is rejected. -/
theorem Prints.ofLine_rejected {t : Text} (h : Prints t none) :
    ∃ reason, RawFrame.ofLine t = .error (.rejected reason) := by
  cases h with
  | blank h =>
    rw [RawFrame.ofLine, FrameLine.read?_of_blank h]
    exact ⟨_, rfl⟩
  | rejected h => exact ⟨_, h⟩

theorem Prints.toOption_eq {t : Text} {printed : Option RawFrame} (h : Prints t printed)
    (ht : t.IsLine) : (RawFrame.ofLine t).toOption = printed := by
  cases printed with
  | none =>
    obtain ⟨reason, hreason⟩ := h.ofLine_rejected
    rw [hreason]
    rfl
  | some raw =>
    rw [h.ofLine_eq ht]
    rfl

theorem Prints.not_lineHazard {t : Text} {printed : Option RawFrame} (h : Prints t printed)
    (ht : t.IsLine) : ¬ LineHazard t := by
  rw [← settled_ofLine_iff]
  cases printed with
  | none =>
    obtain ⟨reason, hreason⟩ := h.ofLine_rejected
    rw [hreason]
    exact settled_rejected reason
  | some raw =>
    rw [h.ofLine_eq ht]
    exact settled_ok raw

/-- The lines of a printed stack after its header. -/
theorem Sifted.frameLines_joined {header : Text} {lines : List Text}
    (h : ∀ line ∈ header :: lines, Text.IsLine line) :
    frameLines (Text.joined ['\n'] (header :: lines)) =
      if lines.getLast? = some [] then lines.dropLast else lines := by
  rw [frameLines, Text.lines_joined h]
  cases lines with
  | nil =>
    cases header <;> rfl
  | cons first more =>
    rw [List.getLast?_cons_cons]
    split <;> rfl

/-- An empty line at the end of a stack does not count. -/
theorem filterMap_dropLast {lines : List Text} (h : lines.getLast? = some []) :
    lines.dropLast.filterMap (fun t => (RawFrame.ofLine t).toOption) =
      lines.filterMap fun t => (RawFrame.ofLine t).toOption := by
  obtain ⟨front, rfl⟩ := List.getLast?_eq_some_iff.1 h
  rw [List.dropLast_concat, List.filterMap_append]
  exact (List.append_nil _).symm

namespace Reader

/-- **The frames of a stack can be given as records.** Whatever frames are read from a stack, the
records of these frames come to them. -/
theorem raws_ofRecords_toRecord {stack : Text} {frames : List RawFrame}
    (h : (ofStack stack).raws = .ok frames) :
    (ofRecords (frames.map RawFrame.toRecord)).raws = .ok frames := by
  rw [ofStack_eq_ok, Sifted.ofStack_eq_ok] at h
  have hback : ∀ raw ∈ frames, RawFrame.ofRecord raw.toRecord = .ok raw := by
    rw [h.2]
    intro raw hraw
    obtain ⟨t, -, ht⟩ := List.mem_filterMap.1 hraw
    exact RawFrame.ofRecord_toRecord (RawFrame.wellFormed_of_ofLine (toOption_eq_some.1 ht))
  rw [ofRecords_eq_ok, Sifted.ofRecords_eq_ok, List.forall_mem_map, List.filterMap_map]
  refine ⟨fun raw hraw => ?_, ?_⟩
  · rw [← settled_ofRecord_iff, hback raw hraw]
    exact settled_ok raw
  · have hsome : frames.filterMap ((fun record => (RawFrame.ofRecord record).toOption) ∘
        RawFrame.toRecord) = frames.filterMap some :=
      List.filterMap_congr fun raw hraw => by
        rw [Function.comp_apply, hback raw hraw]
        rfl
    rw [hsome, List.filterMap_some]

/-- **A printed stack is read back.** Under any header the frames of the lines that print one are
read, in order and as they were, and nothing else; and so they are from their records. -/
theorem raws_of_prints {header : Text} {lines : List Text} {printed : List (Option RawFrame)}
    (hheader : header.IsLine) (hlines : ∀ line ∈ lines, Text.IsLine line)
    (h : List.Forall₂ Prints lines printed) :
    (ofStack (Text.joined ['\n'] (header :: lines))).raws = .ok printed.reduceOption ∧
      (ofRecords (printed.reduceOption.map RawFrame.toRecord)).raws = .ok printed.reduceOption := by
  have hframes : lines.filterMap (fun t => (RawFrame.ofLine t).toOption) =
      printed.reduceOption := by
    induction h with
    | nil => rfl
    | @cons line first lines printed hfirst hrest ih =>
      obtain ⟨hline, hothers⟩ := List.forall_mem_cons.1 hlines
      rw [List.filterMap_cons, hfirst.toOption_eq hline, ih hothers]
      cases first <;> rfl
  have hhazard : ∀ line ∈ lines, ¬ LineHazard line := by
    intro line hline
    obtain ⟨i, hi, rfl⟩ := List.getElem_of_mem hline
    exact (h.get hi (h.length_eq ▸ hi)).not_lineHazard (hlines _ hline)
  have hstack :
      (ofStack (Text.joined ['\n'] (header :: lines))).raws = .ok printed.reduceOption := by
    rw [ofStack_eq_ok, Sifted.ofStack_eq_ok,
      Sifted.frameLines_joined (List.forall_mem_cons.2 ⟨hheader, hlines⟩), ← hframes]
    -- the last line is not seen if it is empty, and then it prints nothing
    by_cases hlast : lines.getLast? = some []
    · rw [if_pos hlast]
      exact ⟨fun line hline => hhazard line (List.mem_of_mem_dropLast hline),
        (filterMap_dropLast hlast).symm⟩
    · rw [if_neg hlast]
      exact ⟨hhazard, rfl⟩
  exact ⟨hstack, raws_ofRecords_toRecord hstack⟩

/-- A stack whose lines are hard to tell apart: a file with parentheses, a colon and numbers, one
that is a URL with a port, a line that is no frame and a blank one at the end. -/
def printedLines : List Text :=
  [(FrameLine.named "new A".toList "eval at f (x:1:2), <anonymous>".toList (natText 3)
      (natText 4)).write,
    "Caused by: at (1:2)".toList, (FrameLine.placeless "Array.map".toList).write,
    (FrameLine.nameless "http://h:80/a b.js:1:2".toList (natText 5) (natText 6)).write, []]

theorem raws_of_prints_tricky :
    (ofStack (Text.joined ['\n'] ("Error: at x".toList :: printedLines))).raws = .ok
      [⟨"new A".toList, "eval at f (x:1:2), <anonymous>".toList, some 3, some 4, false⟩,
        ⟨"Array.map".toList, [], none, none, false⟩,
        ⟨"<anonymous>".toList, "http://h:80/a b.js:1:2".toList, some 5, some 6, true⟩] := by
  have hdigit : ∀ n, 1 ≤ n ∧ n < 10 → 1 ≤ n ∧ n < numeralBound := fun n hn =>
    ⟨hn.1, lt_numeralBound_of_lt_ten hn.2⟩
  have hprints : List.Forall₂ Prints printedLines _ :=
    .cons (.named (by decide) (by decide) (by decide) (hdigit 3 (by decide)) (hdigit 4 (by decide)))
      (.cons (.rejected (by cbv)) (.cons (.placeless (by decide) (by decide))
        (.cons (.nameless (by decide) (by decide) (by decide) (hdigit 5 (by decide))
          (hdigit 6 (by decide))) (.cons (.blank rfl) .nil))))
  exact (raws_of_prints (by decide) (by decide) hprints).1

end Reader

end Retrace

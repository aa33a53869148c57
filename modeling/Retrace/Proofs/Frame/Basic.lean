import Mathlib.Data.List.TakeWhile
import Mathlib.Tactic.ByContra
import Retrace.Frame.Basic
import Retrace.Proofs.Outcome

/-!
# Making raw frames

What comes of the values that a raw frame is made from. Nearly all that may be wrong with them is a
rejection. What is none is listed: a text of digits that no number can be read from, because some of
them have no place in a numeral or because there are too many, and a negative number that is too
long to be told.

* `Settled`: outcomes that are a value or a rejection;
* `Json.GivesText`, `Json.GivesPosition`: the values that give a text or a position;
* `PositionHazard`, `CreateHazard`: what is neither a raw frame nor a rejection.

Main statements: `position_eq_ok`, `settled_position_iff`, `settled_create_iff` and `create_eq_ok`.
-/

namespace Retrace

/-- Whether an outcome is a value or a rejection. -/
def Settled {α : Type} (outcome : Except FrameFault α) : Prop :=
  ∀ fault, outcome ≠ .error (.numeral fault)

section Settled

variable {α β : Type}

@[simp] theorem settled_ok (a : α) : Settled (.ok a : Except FrameFault α) := nofun

@[simp] theorem settled_rejected (reason : Rejection) :
    Settled (.error (.rejected reason) : Except FrameFault α) := nofun

@[simp] theorem not_settled_numeral (fault : NumeralFault) :
    ¬ Settled (.error (.numeral fault) : Except FrameFault α) := fun h => h fault rfl

theorem settled_bind {first : Except FrameFault α} {next : α → Except FrameFault β} :
    Settled (first >>= next) ↔ Settled first ∧ ∀ a, first = .ok a → Settled (next a) := by
  cases first with
  | ok a => simp
  | error failure => cases failure <;> simp

theorem settled_map {first : Except FrameFault α} (f : α → β) :
    Settled (first.map f) ↔ Settled first := by
  cases first with
  | ok a => simp [Except.map]
  | error failure => cases failure <;> simp [Except.map]

end Settled

/-! ### Numerals -/

theorem exists_mapM_decimalValue? {t : Text} :
    (∃ values, t.mapM decimalValue? = some values) ↔ ∀ c ∈ t, isDecimal c = true := by
  induction t with
  | nil => simp
  | cons c rest ih =>
    rw [List.forall_mem_cons, ← ih, List.mapM_cons, isDecimal]
    cases decimalValue? c with
    | none => simp
    | some d => cases rest.mapM decimalValue? <;> simp

/-- A number can be read from decimal digits, if there are some and not too many. -/
theorem exists_readNumeral_iff {t : Text} :
    (∃ n, readNumeral t = .ok n) ↔
      t ≠ [] ∧ (∀ c ∈ t, isDecimal c = true) ∧ t.length ≤ digitLimit := by
  constructor
  · rintro ⟨n, h⟩
    obtain ⟨hlength, hne, values, hvalues, -⟩ := readNumeral_eq_ok.1 h
    have hdecimal := exists_mapM_decimalValue?.1 ⟨values, hvalues⟩
    rw [List.takeWhile_eq_self_iff.2 hdecimal] at hlength
    exact ⟨hne, hdecimal, hlength⟩
  · rintro ⟨hne, hdecimal, hlength⟩
    obtain ⟨values, hvalues⟩ := exists_mapM_decimalValue?.2 hdecimal
    refine ⟨_, readNumeral_eq_ok.2 ⟨?_, hne, values, hvalues, rfl⟩⟩
    rwa [List.takeWhile_eq_self_iff.2 hdecimal]

theorem isDigit_of_isDecimal {c : Char} (h : isDecimal c = true) : isDigit c = true := by
  rw [isDigit, h, Bool.true_or]

theorem numeralBound_pos : 0 < numeralBound := by
  unfold numeralBound
  generalize digitLimit = n
  exact Nat.pow_pos (Nat.succ_pos 9)

/-! ### Values -/

/-- Whether a value gives a text; `null` gives none. -/
inductive Json.GivesText : Json → Text → Prop
  | null : GivesText .null []
  | str (t : Text) : GivesText (.str t) t

/-- Whether a value gives a position, or that there is none. -/
inductive Json.GivesPosition : Json → Option Int → Prop
  | null : GivesPosition .null none
  | int {n : Int} (h : 1 ≤ n) : GivesPosition (.int n) (some n)
  | digits {t : Text} {n : Nat} (h : readNumeral t = .ok n) (hpositive : 1 ≤ n) :
    GivesPosition (.str t) (some n)

/-- Values of a position that come to neither a number nor a rejection. -/
inductive PositionHazard : Json → Prop
  /-- A digit that has no place in a numeral. -/
  | digit {t : Text} {c : Char} (hdigits : ∀ c ∈ t, isDigit c = true) (hc : c ∈ t)
      (h : isDecimal c = false) : PositionHazard (.str t)
  /-- Too many digits. -/
  | long {t : Text} (hdigits : ∀ c ∈ t, isDigit c = true) (h : digitLimit < t.length) :
    PositionHazard (.str t)
  /-- A negative number that is too long to be told. -/
  | below {n : Int} (h : n ≤ -numeralBound) : PositionHazard (.int n)

theorem textOr_eq_ok {reason : String → Rejection} {value : Json} {t : Text} :
    textOr reason value = .ok t ↔ value.GivesText t := by
  constructor
  · intro h
    cases value with
    | null =>
      cases h
      exact .null
    | str u =>
      cases h
      exact .str t
    | _ => cases h
  · rintro (_ | _) <;> rfl

theorem settled_textOr (reason : String → Rejection) (value : Json) :
    Settled (textOr reason value) := by
  cases value <;> simp [textOr]

section Positions

variable (field : PositionField)

theorem positive_eq_ok {n m : Int} : positive field n = .ok m ↔ 1 ≤ n ∧ m = n := by
  unfold positive
  by_cases h : 1 ≤ n
  · simp [h, eq_comm]
  · rw [if_neg h]
    cases writeInt n <;> simp [h]

theorem settled_positive_iff {n : Int} : Settled (positive field n) ↔ ¬ n ≤ -numeralBound := by
  unfold positive
  by_cases h : 1 ≤ n
  · rw [if_pos h]
    exact iff_of_true (settled_ok n) (by omega)
  · rw [if_neg h, writeInt]
    by_cases hlong : n.natAbs < numeralBound
    · rw [if_pos hlong]
      exact iff_of_true (settled_rejected _) (by omega)
    · rw [if_neg hlong]
      exact iff_of_false (not_settled_numeral _) (by omega)

/-- A text of digits is a position if a positive number can be read from it. -/
theorem position_str {t : Text} (hne : t ≠ []) (hdigits : ∀ c ∈ t, isDigit c = true) :
    position field (.str t) =
      match readNumeral t with
      | .error fault => .error (.numeral fault)
      | .ok n => (positive field n).map some := by
  have hnumeric : ¬ (t.isEmpty || !t.all isDigit) = true := by simpa [hne] using hdigits
  rw [position]
  refine (if_neg hnumeric).trans ?_
  cases readNumeral t <;> rfl

/-- Any other text is rejected. -/
theorem position_str_of_not {t : Text} (h : t = [] ∨ ¬ ∀ c ∈ t, isDigit c = true) :
    position field (.str t) = .error (.rejected (.positionNotNumeric field t)) := by
  have hnumeric : (t.isEmpty || !t.all isDigit) = true := by simpa using h
  rw [position, if_pos hnumeric]

theorem digits_of_readNumeral {t : Text} {n : Nat} (h : readNumeral t = .ok n) :
    t ≠ [] ∧ ∀ c ∈ t, isDigit c = true := by
  obtain ⟨hne, hdecimal, -⟩ := exists_readNumeral_iff.1 ⟨n, h⟩
  exact ⟨hne, fun c hc => isDigit_of_isDecimal (hdecimal c hc)⟩

/-- The number of a position is the one that its value gives. -/
theorem position_eq_ok {value : Json} {number : Option Int} :
    position field value = .ok number ↔ value.GivesPosition number := by
  constructor
  · intro h
    cases value with
    | null =>
      cases h
      exact .null
    | int n =>
      obtain ⟨m, hm, rfl⟩ := map_eq_ok.1 h
      obtain ⟨hpositive, rfl⟩ := (positive_eq_ok field).1 hm
      exact .int hpositive
    | str t =>
      by_cases hdigits : t ≠ [] ∧ ∀ c ∈ t, isDigit c = true
      · rw [position_str field hdigits.1 hdigits.2] at h
        cases hread : readNumeral t with
        | error fault =>
          rw [hread] at h
          cases h
        | ok n =>
          rw [hread] at h
          obtain ⟨m, hm, rfl⟩ := map_eq_ok.1 h
          obtain ⟨hpositive, rfl⟩ := (positive_eq_ok field).1 hm
          exact .digits hread (by omega)
      · rw [not_and_or, not_not] at hdigits
        rw [position_str_of_not field hdigits] at h
        cases h
    | _ => cases h
  · rintro (_ | h | ⟨hread, hpositive⟩)
    · rfl
    · exact map_eq_ok.2 ⟨_, (positive_eq_ok field).2 ⟨h, rfl⟩, rfl⟩
    · obtain ⟨hne, hdigits⟩ := digits_of_readNumeral hread
      rw [position_str field hne hdigits, hread]
      exact map_eq_ok.2 ⟨_, (positive_eq_ok field).2 ⟨by omega, rfl⟩, rfl⟩

theorem positionHazard_str_iff {t : Text} :
    PositionHazard (.str t) ↔ t ≠ [] ∧ (∀ c ∈ t, isDigit c = true) ∧
      ∀ n, readNumeral t ≠ .ok n := by
  rw [← not_exists, exists_readNumeral_iff]
  constructor
  · rintro (⟨hdigits, hc, h⟩ | ⟨hdigits, h⟩ | _)
    · refine ⟨List.ne_nil_of_mem hc, hdigits, fun hread => ?_⟩
      rw [hread.2.1 _ hc] at h
      cases h
    · refine ⟨?_, hdigits, by omega⟩
      rintro rfl
      simp at h
  · rintro ⟨hne, hdigits, hread⟩
    by_cases hdecimal : ∀ c ∈ t, isDecimal c = true
    · have hlong : digitLimit < t.length := by
        by_contra hlength
        exact hread ⟨hne, hdecimal, by omega⟩
      exact .long hdigits hlong
    · simp only [not_forall, Bool.not_eq_true] at hdecimal
      obtain ⟨c, hc, h⟩ := hdecimal
      exact .digit hdigits hc h

/-- A value of a position is a number or rejected unless it is listed. -/
theorem settled_position_iff {value : Json} :
    Settled (position field value) ↔ ¬ PositionHazard value := by
  cases value with
  | int n =>
    rw [position, settled_map, settled_positive_iff]
    refine not_congr ⟨.below, ?_⟩
    rintro ⟨h⟩
    assumption
  | str t =>
    rw [positionHazard_str_iff]
    by_cases hdigits : t ≠ [] ∧ ∀ c ∈ t, isDigit c = true
    · rw [position_str field hdigits.1 hdigits.2]
      cases hread : readNumeral t with
      | error fault =>
        exact iff_of_false (not_settled_numeral fault)
          (not_not_intro ⟨hdigits.1, hdigits.2, nofun⟩)
      | ok n =>
        have hbound := numeralBound_pos
        dsimp only
        rw [settled_map, settled_positive_iff]
        exact iff_of_true (by omega) fun h => h.2.2 n rfl
    · refine iff_of_true ?_ fun h => hdigits ⟨h.1, h.2.1⟩
      rw [not_and_or, not_not] at hdigits
      rw [position_str_of_not field hdigits]
      exact settled_rejected _
  | null => exact iff_of_true (settled_ok _) nofun
  | bool value => exact iff_of_true (settled_rejected _) nofun
  | float value => exact iff_of_true (settled_rejected _) nofun
  | arr items => exact iff_of_true (settled_rejected _) nofun
  | obj fields => exact iff_of_true (settled_rejected _) nofun

end Positions

/-! ### Raw frames -/

/-- Values from which neither a raw frame nor a rejection is made. Names and files are looked at
before positions, and the line before the column. -/
inductive CreateHazard (name file line column : Json) : Prop
  | line {nameText fileText : Text} (hname : name.GivesText nameText)
      (hfile : file.GivesText fileText) (h : PositionHazard line)
  | column {nameText fileText : Text} {number : Option Int} (hname : name.GivesText nameText)
      (hfile : file.GivesText fileText) (hline : line.GivesPosition number)
      (h : PositionHazard column)

/-- Values make a raw frame or are rejected unless they are listed. -/
theorem settled_create_iff {name file line column : Json} :
    Settled (RawFrame.create name file line column) ↔ ¬ CreateHazard name file line column := by
  rw [RawFrame.create]
  constructor
  · intro h hhazard
    obtain ⟨nameText, fileText, hname, hfile⟩ :
        ∃ nameText fileText, name.GivesText nameText ∧ file.GivesText fileText := by
      rcases hhazard with ⟨hname, hfile, -⟩ | ⟨hname, hfile, -, -⟩ <;> exact ⟨_, _, hname, hfile⟩
    -- name and file give texts, so the positions decide
    rw [textOr_eq_ok.2 hname, ok_bind, textOr_eq_ok.2 hfile, ok_bind] at h
    obtain ⟨hline, hnext⟩ := settled_bind.1 h
    rcases hhazard with ⟨-, -, hposition⟩ | ⟨-, -, hnumber, hposition⟩
    · exact (settled_position_iff .line).1 hline hposition
    · have hcolumn := (settled_bind.1 (hnext _ ((position_eq_ok .line).2 hnumber))).1
      exact (settled_position_iff .column).1 hcolumn hposition
  · intro h
    refine settled_bind.2 ⟨settled_textOr _ _, fun nameText hname => ?_⟩
    refine settled_bind.2 ⟨settled_textOr _ _, fun fileText hfile => ?_⟩
    rw [textOr_eq_ok] at hname hfile
    refine settled_bind.2 ⟨?_, fun number hline => settled_bind.2 ⟨?_, fun _ _ => ?_⟩⟩
    · rw [settled_position_iff]
      exact fun hposition => h (.line hname hfile hposition)
    · rw [settled_position_iff]
      exact fun hposition => h (.column hname hfile ((position_eq_ok .line).1 hline) hposition)
    · split
      · exact settled_rejected _
      · exact settled_ok _

/-- The raw frame that values make: texts are trimmed, and a file needs a line. -/
theorem create_eq_ok {name file line column : Json} {raw : RawFrame} :
    RawFrame.create name file line column = .ok raw ↔
      ∃ (nameText fileText : Text) (lineNumber columnNumber : Option Int),
        name.GivesText nameText ∧ file.GivesText fileText ∧
        line.GivesPosition lineNumber ∧ column.GivesPosition columnNumber ∧
        (fileText.trim = [] ∨ lineNumber ≠ none) ∧
        raw = ⟨if nameText.trim.isEmpty then anonymousName else nameText.trim, fileText.trim,
          lineNumber, columnNumber, nameText.trim.isEmpty⟩ := by
  rw [RawFrame.create]
  simp only [bind_eq_ok, textOr_eq_ok, position_eq_ok]
  have hplaced : ∀ (fileText : Text) (lineNumber : Option Int),
      (!fileText.trim.isEmpty && lineNumber.isNone) = true ↔
        ¬ (fileText.trim = [] ∨ lineNumber ≠ none) := by
    intro fileText lineNumber
    simp
  constructor
  · rintro ⟨nameText, hname, fileText, hfile, lineNumber, hline, columnNumber, hcolumn, h⟩
    by_cases hmissing : (!fileText.trim.isEmpty && lineNumber.isNone) = true
    · rw [if_pos hmissing] at h
      cases h
    · rw [if_neg hmissing] at h
      cases h
      rw [hplaced, not_not] at hmissing
      exact ⟨nameText, fileText, lineNumber, columnNumber, hname, hfile, hline, hcolumn, hmissing,
        rfl⟩
  · rintro ⟨nameText, fileText, lineNumber, columnNumber, hname, hfile, hline, hcolumn, hplace, rfl⟩
    refine ⟨nameText, hname, fileText, hfile, lineNumber, hline, columnNumber, hcolumn, ?_⟩
    exact if_neg fun hmissing => (hplaced _ _).1 hmissing hplace

end Retrace

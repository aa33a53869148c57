import Mathlib.Data.Nat.Digits.Defs
import Retrace.Proofs.Frame.Printed

/-!
# Frames of records

Which records are raw frames, and what the frames say. The values of a record are checked and never
converted but from a numeral to its number: a truth value is no number, a number with a point is no
position, and a key that is there hides the other keys of its part even if its value is `null`.

* `Json.Fields.Preferred`: the value of a part of a record;
* `NumeralOf`: the texts of decimal digits that stand for a number;
* `Json.Describes`: the raw frame that a record describes.

Main statement: `RawFrame.ofRecord_eq_ok_iff_describes`.
-/

namespace Retrace

/-! ### Parts of records -/

/-- The value of a part of a record: it stands under the first of the part's keys that is there, and
is `null` if none of them is. -/
inductive Json.Fields.Preferred (fields : Json.Fields) : List Text → Json → Prop
  | absent : Preferred fields [] .null
  | found {key : Text} {value : Json} (h : Json.Fields.get? key fields = some value)
      (others : List Text) : Preferred fields (key :: others) value
  | passed {key : Text} {others : List Text} {value : Json}
      (h : Json.Fields.get? key fields = none) (hothers : Preferred fields others value) :
      Preferred fields (key :: others) value

theorem firstOf_eq_iff {fields : Json.Fields} {keys : List Text} {value : Json} :
    firstOf fields keys = value ↔ fields.Preferred keys value := by
  induction keys with
  | nil =>
    constructor
    · rintro rfl
      exact .absent
    · rintro ⟨⟩
      rfl
  | cons key others ih =>
    cases hkey : Json.Fields.get? key fields with
    | none =>
      have hskip : firstOf fields (key :: others) = firstOf fields others := by
        simp [firstOf, hkey]
      rw [hskip, ih]
      constructor
      · exact .passed hkey
      · rintro (_ | ⟨hfound, -⟩ | ⟨-, hothers⟩)
        · rw [hkey] at hfound
          cases hfound
        · exact hothers
    | some found =>
      rw [firstOf_eq_get? hkey]
      constructor
      · rintro rfl
        exact .found hkey others
      · rintro (_ | ⟨hfound, -⟩ | ⟨hpassed, -⟩)
        · rw [hkey] at hfound
          exact Option.some.inj hfound
        · rw [hkey] at hpassed
          cases hpassed

/-! ### Numerals -/

/-- Whether a text stands for a number: decimal digits of any scripts, at least one and no more than
a numeral may have, from the greatest place to the least. -/
structure NumeralOf (t : Text) (n : Nat) : Prop where
  ne_nil : t ≠ []
  length_le : t.length ≤ digitLimit
  digits : ∃ values : List Nat,
    t.map decimalValue? = values.map some ∧ n = Nat.ofDigits 10 values.reverse

theorem ofDigitValues_eq_ofDigits (values : List Nat) :
    ofDigitValues values = Nat.ofDigits 10 values.reverse := by
  rw [ofDigitValues, Nat.ofDigits_eq_foldr, List.foldr_reverse]
  simp only [Nat.add_comm, Nat.cast_id]

theorem mapM_decimalValue?_eq_some {t : Text} {values : List Nat} :
    t.mapM decimalValue? = some values ↔ t.map decimalValue? = values.map some := by
  induction t generalizing values with
  | nil => cases values <;> simp
  | cons c rest ih =>
    cases values with
    | nil =>
      rw [List.mapM_cons]
      cases decimalValue? c with
      | none => simp
      | some e => cases rest.mapM decimalValue? <;> simp
    | cons d more =>
      rw [List.map_cons, List.map_cons, List.cons.injEq, ← ih, List.mapM_cons]
      cases decimalValue? c with
      | none => simp
      | some e => cases rest.mapM decimalValue? <;> simp

theorem readNumeral_eq_ok_iff {t : Text} {n : Nat} : readNumeral t = .ok n ↔ NumeralOf t n := by
  constructor
  · intro h
    obtain ⟨hne, -, hlength⟩ := exists_readNumeral_iff.1 ⟨n, h⟩
    obtain ⟨-, -, values, hvalues, hn⟩ := readNumeral_eq_ok.1 h
    exact ⟨hne, hlength, values, mapM_decimalValue?_eq_some.1 hvalues,
      hn.trans (ofDigitValues_eq_ofDigits values)⟩
  · rintro ⟨hne, hlength, values, hvalues, hn⟩
    have hprefix := (List.takeWhile_sublist isDecimal (l := t)).length_le
    exact readNumeral_eq_ok.2 ⟨Nat.le_trans hprefix hlength, hne, values,
      mapM_decimalValue?_eq_some.2 hvalues, hn.trans (ofDigitValues_eq_ofDigits values).symm⟩

/-! ### Records -/

/-- What a frame is called that a text names, and whether it is anonymous. -/
inductive CalledBy : Text → Text → Bool → Prop
  | named {t : Text} (h : t.trim ≠ []) : CalledBy t t.trim false
  | unnamed {t : Text} (h : t.trim = []) : CalledBy t anonymousName true

/-- Whether a record describes a raw frame: it is an object, its name and its file are texts or
`null`, its line and its column are positions or `null`, and it has a line if it has a file. -/
inductive Json.Describes : Json → RawFrame → Prop
  | fields {fields : Json.Fields} {name file line column : Json} {nameText fileText called : Text}
      {anonymous : Bool} {lineNumber columnNumber : Option Int}
      (hname : fields.Preferred recordKeys.name name) (hnameText : name.GivesText nameText)
      (hcalled : CalledBy nameText called anonymous)
      (hfile : fields.Preferred recordKeys.file file) (hfileText : file.GivesText fileText)
      (hline : fields.Preferred recordKeys.line line)
      (hlineNumber : line.GivesPosition lineNumber)
      (hcolumn : fields.Preferred recordKeys.column column)
      (hcolumnNumber : column.GivesPosition columnNumber)
      (hplaced : fileText.trim ≠ [] → lineNumber ≠ none) :
      Describes (.obj fields) ⟨called, fileText.trim, lineNumber, columnNumber, anonymous⟩

theorem calledBy_iff {t called : Text} {anonymous : Bool} :
    CalledBy t called anonymous ↔
      (if t.trim.isEmpty then anonymousName else t.trim) = called ∧ t.trim.isEmpty = anonymous := by
  by_cases h : t.trim = []
  · have hempty : t.trim.isEmpty = true := by rw [h]; rfl
    rw [if_pos hempty, hempty]
    constructor
    · rintro (⟨hnamed⟩ | -)
      · exact absurd h hnamed
      · exact ⟨rfl, rfl⟩
    · rintro ⟨rfl, rfl⟩
      exact .unnamed h
  · have hfull : t.trim.isEmpty = false := by simpa using h
    rw [hfull, if_neg (by decide)]
    constructor
    · rintro (- | ⟨hunnamed⟩)
      · exact ⟨rfl, rfl⟩
      · exact absurd hunnamed h
    · rintro ⟨rfl, rfl⟩
      exact .named h

theorem ofRecord_eq_ok_iff {record : Json} {raw : RawFrame} :
    RawFrame.ofRecord record = .ok raw ↔ record.Describes raw := by
  constructor
  · intro h
    cases record with
    | obj fields =>
      obtain ⟨nameText, fileText, lineNumber, columnNumber, hname, hfile, hline, hcolumn, hplaced,
        rfl⟩ := create_eq_ok.1 h
      exact .fields (firstOf_eq_iff.1 rfl) hname (calledBy_iff.2 ⟨rfl, rfl⟩) (firstOf_eq_iff.1 rfl)
        hfile (firstOf_eq_iff.1 rfl) hline (firstOf_eq_iff.1 rfl) hcolumn
        fun hne => hplaced.resolve_left hne
    | _ => cases h
  · rintro ⟨hname, hnameText, hcalled, hfile, hfileText, hline, hlineNumber, hcolumn, hcolumnNumber,
      hplaced⟩
    obtain ⟨rfl, rfl⟩ := calledBy_iff.1 hcalled
    obtain rfl := firstOf_eq_iff.2 hname
    obtain rfl := firstOf_eq_iff.2 hfile
    obtain rfl := firstOf_eq_iff.2 hline
    obtain rfl := firstOf_eq_iff.2 hcolumn
    exact create_eq_ok.2 ⟨_, _, _, _, hnameText, hfileText, hlineNumber, hcolumnNumber,
      or_iff_not_imp_left.2 hplaced, rfl⟩

/-! ### What frames of records have in common -/

theorem RawFrame.wellFormed_of_ofRecord {record : Json} {raw : RawFrame}
    (h : RawFrame.ofRecord record = .ok raw) : raw.WellFormed := by
  cases record with
  | obj fields => exact wellFormed_of_create h
  | _ => cases h

theorem RawFrame.WellFormed.name_ne_nil {raw : RawFrame} (h : raw.WellFormed) : raw.name ≠ [] := by
  cases hanonymous : raw.anonymous with
  | true =>
    rw [h.anonymous hanonymous]
    decide
  | false => exact (h.named hanonymous).1

/-- A record is a raw frame exactly if it describes one, with numerals for their numbers, and all
the frames that are read from records are well formed and have a name. -/
theorem RawFrame.ofRecord_eq_ok_iff_describes (record : Json) (records : List Json) :
    (∀ raw, RawFrame.ofRecord record = .ok raw ↔ record.Describes raw) ∧
      (∀ t n, readNumeral t = .ok n ↔ NumeralOf t n) ∧
      ∀ frames, (Reader.ofRecords records).raws = .ok frames →
        ∀ raw ∈ frames, raw.WellFormed ∧ raw.name ≠ [] := by
  refine ⟨fun raw => ofRecord_eq_ok_iff, fun t n => readNumeral_eq_ok_iff, ?_⟩
  intro frames h raw hraw
  rw [Reader.ofRecords_eq_ok, Sifted.ofRecords_eq_ok] at h
  obtain ⟨-, rfl⟩ := h
  obtain ⟨other, -, hother⟩ := List.mem_filterMap.1 hraw
  have hwell := wellFormed_of_ofRecord (toOption_eq_some.1 hother)
  exact ⟨hwell, hwell.name_ne_nil⟩

/-- A record with a name that is hidden by `null` and a line in digits of another script, and one
whose line is a truth value. -/
theorem RawFrame.ofRecord_eq_ok_iff_describes_hidden :
    let first : Json := .obj [("name".toList, .str "f".toList), ("functionName".toList, .null),
      ("file".toList, .str " /a.js ".toList), ("line_number".toList, .str "٣0".toList)]
    let second : Json := .obj [("file".toList, .str "/b.js".toList), ("line".toList, .bool true)]
    let raw : RawFrame := ⟨"<anonymous>".toList, "/a.js".toList, some 30, none, true⟩
    (RawFrame.ofRecord first = .ok raw ∧ first.Describes raw) ∧
      (∀ other, ¬ second.Describes other) ∧
      (Reader.ofRecords [first, second]).raws = .ok [raw] ∧ raw.WellFormed := by
  intro first second raw
  have hfirst : RawFrame.ofRecord first = .ok raw := by decide +kernel
  have hraws : (Reader.ofRecords [first, second]).raws = .ok [raw] :=
    Reader.ofRecords_eq_ok.2 (by decide +kernel)
  refine ⟨⟨hfirst, ?_⟩, fun other hother => ?_, hraws, ?_⟩
  · exact ((RawFrame.ofRecord_eq_ok_iff_describes first []).1 raw).1 hfirst
  · have hsecond := ((RawFrame.ofRecord_eq_ok_iff_describes second []).1 other).2 hother
    have hbool : RawFrame.ofRecord second =
        .error (.rejected (.positionIsBool .line true)) := by cbv
    rw [hbool] at hsecond
    cases hsecond
  · exact ((RawFrame.ofRecord_eq_ok_iff_describes first [first, second]).2.2 [raw] hraws raw
      List.mem_cons_self).1

end Retrace

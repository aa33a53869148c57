import Mathlib.Data.List.Induction
import Mathlib.Data.List.TakeWhile
import Retrace.Json.Parser
import Retrace.Proofs.Number.Numeral

/-!
# What JSON texts are read as

Every whole number in a value that was read comes from a numeral, and so it can be written again. An
escape stands for the character that it writes, unless it is that of a surrogate on its own.

* `forall_areWritable`: arrays by their entries;
* `exists_display`, `display_eq_error`: the values that have a text, and why the others have none.

Main statements: `isWritable_of_parse` and `unicodeEscape_of_not_hasLoneEscape`.
-/

namespace Retrace

/-- The value of a row of digits is below the power of ten of its length. -/
theorem ofDigitValues_lt {values : List Nat} (h : ∀ d ∈ values, d < 10) :
    ofDigitValues values < Nat.pow 10 values.length := by
  induction values using List.reverseRecOn with
  | nil => exact Nat.one_pos
  | append_singleton values d ih =>
    have hlast : d < 10 := h d List.mem_concat_self
    have hrest := ih fun e he => h e (List.mem_append_left _ he)
    rw [ofDigitValues_concat, List.length_append, List.length_singleton]
    show 10 * ofDigitValues values + d < Nat.pow 10 values.length * 10
    omega

theorem forall_lt_of_mapM {t : Text} {values : List Nat}
    (h : t.mapM decimalValue? = some values) :
    values.length = t.length ∧ ∀ d ∈ values, d < 10 := by
  induction t generalizing values with
  | nil =>
    cases h
    exact ⟨rfl, nofun⟩
  | cons c rest ih =>
    rw [List.mapM_cons] at h
    obtain ⟨d, hd, h⟩ := Option.bind_eq_some_iff.1 h
    obtain ⟨others, hothers, h⟩ := Option.bind_eq_some_iff.1 h
    cases h
    obtain ⟨hlength, hlt⟩ := ih hothers
    exact ⟨congrArg Nat.succ hlength, List.forall_mem_cons.2 ⟨decimalValue?_lt hd, hlt⟩⟩

/-- A number that is read from decimal digits can be written. -/
theorem lt_numeralBound_of_readNumeral {t : Text} {n : Nat} (h : readNumeral t = .ok n)
    (hdecimal : ∀ c ∈ t, isDecimal c = true) : n < numeralBound := by
  obtain ⟨hlength, -, values, hvalues, rfl⟩ := readNumeral_eq_ok.1 h
  obtain ⟨hcount, hdigits⟩ := forall_lt_of_mapM hvalues
  rw [List.takeWhile_eq_self_iff.2 hdecimal, ← hcount] at hlength
  unfold numeralBound
  generalize digitLimit = limit at hlength ⊢
  exact Nat.lt_of_lt_of_le (ofDigitValues_lt hdigits) (Nat.pow_le_pow_right (by decide) hlength)

namespace Json

/-! ### Texts of values -/

theorem exists_display {v : Json} (h : v.isWritable = true) : ∃ t, v.display = .ok t := by
  have hwritten : ∀ {v : Json}, v.isWritable = true → ∃ t, v.written = .ok t :=
    fun {v} h => ⟨v.literal, if_pos h⟩
  cases v with
  | str t => exact ⟨t, rfl⟩
  | _ => exact hwritten h

theorem display_eq_error {v : Json} {fault : NumeralFault} (h : v.display = .error fault) :
    fault = .tooLongToWrite := by
  have hwritten : ∀ {v : Json}, v.written = .error fault → fault = .tooLongToWrite := by
    intro v h
    rw [written] at h
    split at h
    · cases h
    · cases h
      rfl
  cases v with
  | str t => cases h
  | _ => exact hwritten h

theorem forall_areWritable {items : List Json} :
    areWritable items = true ↔ ∀ item ∈ items, item.isWritable = true := by
  induction items with
  | nil => simp [areWritable]
  | cons item rest ih => rw [areWritable, Bool.and_eq_true, ih, List.forall_mem_cons]

theorem isWritable_of_get? {fields : Fields} {key : Text} {v : Json}
    (hfields : haveWritable fields = true) (h : Fields.get? key fields = some v) :
    v.isWritable = true := by
  induction fields with
  | nil => cases h
  | cons field rest ih =>
    rw [haveWritable, Bool.and_eq_true] at hfields
    rw [Fields.get?] at h
    split at h
    · cases h
      exact hfields.1
    · exact ih hfields.2 h

theorem haveWritable_put {fields : Fields} {v : Json} (key : Text)
    (hfields : haveWritable fields = true) (hv : v.isWritable = true) :
    haveWritable (fields.put key v) = true := by
  induction fields with
  | nil => rw [Fields.put, haveWritable, hv, haveWritable, Bool.and_self]
  | cons field rest ih =>
    rw [haveWritable, Bool.and_eq_true] at hfields
    rw [Fields.put]
    split
    · rw [haveWritable, hv, hfields.2, Bool.and_self]
    · rw [haveWritable, hfields.1, ih hfields.2, Bool.and_self]

/-! ### Reading -/

theorem isWritable_of_number {c after : Cursor} {v : Json} (h : number c = .ok (v, after)) :
    v.isWritable = true := by
  unfold number at h
  extract_lets negative sign unsigned whole at h
  split at h
  · cases h
  split at h
  · split at h
    · cases h
    · rename_i n hread
      cases h
      -- the digits are those of ASCII, so the numeral is one of decimal digits
      have hdigit : ∀ c, isNumberDigit c = true → isDecimal c = true := fun c hc =>
        isDecimal_of_isDigit (Char.isDigit_iff_toNat.2 (by simpa [isNumberDigit] using hc))
      have hbound : n < numeralBound := by
        refine lt_numeralBound_of_readNumeral hread fun c hc => hdigit c ?_
        unfold whole at hc
        split at hc
        · rw [List.mem_singleton.1 hc]
          decide
        · exact List.mem_takeWhile_imp hc
      rw [isWritable, decide_eq_true_eq]
      split
      · rwa [Int.natAbs_neg, Int.natAbs_natCast]
      · rwa [Int.natAbs_natCast]
  · cases h
    rfl

theorem isWritable_of_constant? {t : Text} {entry : Text × Json} (h : constant? t = some entry) :
    entry.2.isWritable = true := by
  have hall : ∀ entry ∈ constants, entry.2.isWritable = true := by
    simp [constants, isWritable]
  exact hall entry (List.mem_of_find?_eq_some h)

/-- Whatever is read under a bound on the nesting can be written: a value, the rest of an array
after elements that can be written, and the rest of an object after fields that can be written. -/
theorem isWritable_of_read (fuel : Nat) :
    (∀ {depth c v after}, value fuel depth c = .ok (v, after) → v.isWritable = true) ∧
    (∀ {depth taken c v after}, elements fuel depth taken c = .ok (v, after) →
      areWritable taken = true → v.isWritable = true) ∧
    ∀ {depth taken c v after}, members fuel depth taken c = .ok (v, after) →
      haveWritable taken = true → v.isWritable = true := by
  induction fuel with
  | zero => exact ⟨fun h => (by cases h), fun h => (by cases h), fun h => (by cases h)⟩
  | succ fuel ih =>
    obtain ⟨hvalue, helements, hmembers⟩ := ih
    refine ⟨fun {depth c v after} h => ?_, fun {depth taken c v after} h htaken => ?_,
      fun {depth taken c v after} h htaken => ?_⟩
    · rw [value] at h
      split at h
      · split at h
        · cases h
        · cases h
          rfl
      · dsimp only at h
        split at h
        · cases h
        split at h
        · cases h
          rfl
        · exact hmembers h rfl
      · dsimp only at h
        split at h
        · cases h
        split at h
        · cases h
          rfl
        · exact helements h rfl
      · split at h
        · rename_i name constant hconstant
          cases h
          exact isWritable_of_constant? hconstant
        · exact isWritable_of_number h
    · rw [elements] at h
      split at h
      · cases h
      rename_i item next hitem
      have hmore : areWritable (item :: taken) = true := by
        rw [areWritable, hvalue hitem, htaken, Bool.and_self]
      dsimp only at h
      split at h
      · cases h
        rw [isWritable, forall_areWritable]
        exact fun item hitem => forall_areWritable.1 hmore item (List.mem_reverse.1 hitem)
      · exact helements h hmore
      · cases h
    · rw [members] at h
      dsimp only at h
      split at h
      · split at h
        · cases h
        split at h
        · split at h
          · cases h
          rename_i item next hitem
          have hmore := fun key => haveWritable_put key htaken (hvalue hitem)
          split at h
          · cases h
            exact hmore _
          · exact hmembers h (hmore _)
          · cases h
        · cases h
      · cases h

/-- The whole numbers in a value that was read can be written. -/
theorem isWritable_of_parse {t : Text} {v : Json} (h : parse t = .ok v) : v.isWritable = true := by
  rw [parse] at h
  split at h
  · cases h
  split at h
  · cases h
  rename_i read after hread
  dsimp only at h
  split at h
  · cases h
    exact (isWritable_of_read _).1 hread
  · cases h

/-! ### Escapes of surrogates -/

theorem toNat_ofNat_of_not_surrogate {n : Nat} (hhigh : isHighSurrogate n = false)
    (hlow : isLowSurrogate n = false) (hn : n < 0x10000) : (Utf8.charOfCodePoint n).toNat = n := by
  simp only [isHighSurrogate, isLowSurrogate, Bool.and_eq_false_iff, decide_eq_false_iff_not,
    Nat.not_le] at hhigh hlow
  have hvalid : n.isValidChar := by
    unfold Nat.isValidChar
    omega
  rw [Utf8.charOfCodePoint, if_neg (by omega), Char.ofNat, dif_pos hvalid]
  rfl

theorem codePoint?_lt {t : Text} {n : Nat} (h : codePoint? t = some n) : n < 0x10000 := by
  have hdigit : ∀ {c v}, hexValue? c = some v → v < 16 := by
    intro c v hv
    unfold hexValue? at hv
    dsimp only at hv
    split at hv
    · cases hv; omega
    · split at hv
      · cases hv; omega
      · split at hv
        · cases hv; omega
        · cases hv
  unfold codePoint? at h
  split at h
  · split at h
    · rename_i ha hb hc hd
      cases h
      have ha' := hdigit ha
      have hb' := hdigit hb
      have hc' := hdigit hc
      have hd' := hdigit hd
      omega
    · cases h
  · cases h

/-- Where the escape before was the first of two surrogates, the second follows. -/
theorem follows_of_not_hasLoneEscapeFrom {t : Text} (h : hasLoneEscapeFrom true t = false) :
    ∃ rest low, t = '\\' :: 'u' :: rest ∧ codePoint? rest = some low ∧
      isLowSurrogate low = true := by
  unfold hasLoneEscapeFrom at h
  split at h
  · cases h
  · rename_i a b c d rest
    split at h
    · rename_i low hlow
      split at h
      · rename_i hsecond
        exact ⟨a :: b :: c :: d :: rest, low, rfl, hlow, hsecond⟩
      · cases h
    · cases h
  · cases h
  · cases h

/-- In a string that goes on, an escape stands for the character that is written, or for that of two
surrogates, unless it is one of a surrogate on its own. -/
theorem unicodeEscape_of_not_hasLoneEscape {c after : Cursor} {x : Char}
    (hlength : 10 < c.rest.length) (hlone : hasLoneEscape ('\\' :: 'u' :: c.rest) = false)
    (h : unicodeEscape c = .ok (x, after)) :
    ∃ n, codePoint? c.rest = some n ∧
      (x.toNat = n ∨ ∃ low, codePoint? (c.rest.drop 6) = some low ∧
        x = .ofNat (0x10000 + (n - 0xD800) * 0x400 + (low - 0xDC00))) := by
  obtain ⟨rest, position⟩ := c
  obtain _ | ⟨a, _ | ⟨b, _ | ⟨d, _ | ⟨e, tail⟩⟩⟩⟩ := rest
  iterate 4 simp at hlength
  have hpoint : codePoint? (a :: b :: d :: e :: tail) = codePoint? [a, b, d, e] := rfl
  rw [hasLoneEscape, hasLoneEscapeFrom] at hlone
  unfold unicodeEscape at h
  rw [if_neg (by simp only [List.length_cons] at hlength ⊢; omega), hpoint] at h
  dsimp only at h hlone ⊢
  rw [hpoint]
  cases hn : codePoint? [a, b, d, e] with
  | none =>
    rw [hn] at h
    cases h
  | some n =>
    rw [hn] at h hlone
    refine ⟨n, rfl, ?_⟩
    dsimp only at h hlone
    cases hlow : isLowSurrogate n with
    | true => simp [hlow] at hlone
    | false =>
      rw [hlow] at hlone
      cases hhigh : isHighSurrogate n with
      | true =>
        rw [hhigh] at hlone
        obtain ⟨rest, low, rfl, hsecond, hislow⟩ :=
          follows_of_not_hasLoneEscapeFrom (by simpa using hlone)
        simp only [isHighSurrogate, isLowSurrogate, Bool.and_eq_true, decide_eq_true_eq]
          at hhigh hislow
        simp only [List.length_cons] at hlength
        have hgoes : 0xD800 ≤ n ∧ n ≤ 0xDBFF ∧ 6 < rest.length + 1 + 1 := by omega
        simp [Cursor.skip, hgoes, hsecond, hislow] at h
        exact .inr ⟨low, hsecond, h.1.symm⟩
      | false =>
        have hpair : ¬ (0xD800 ≤ n ∧ n ≤ 0xDBFF) := by
          intro hn
          simp [isHighSurrogate, hn] at hhigh
        rw [if_neg (fun hall => hpair ⟨hall.1, hall.2.1⟩)] at h
        cases h
        exact .inl (toNat_ofNat_of_not_surrogate hhigh hlow (codePoint?_lt hn))

end Json

end Retrace

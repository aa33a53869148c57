import Retrace.Text.Base64

/-!
# Reading written base64

Bytes are written in groups of three, and the reader gets each group back from its four digits; the
last group may be shorter and is padded. A written text has nothing in it that is trimmed; the
digits of the web alphabet are replaced and the padding that is left out is made up before it is
read.

* `isSome_or_eq_of_mem_encode`: a written text has digits and padding only;
* `decodeFrom_encode`: the groups are read one after another;
* `Spells`: the texts of bytes, in either alphabet, padded or not.

Main statements: `decode_of_spells` and `decode_encode`.
-/

namespace Retrace.Base64

theorem isSome_digitValue?_iff {c : Char} : (digitValue? c).isSome ↔ c ∈ alphabet := by
  constructor
  · intro h
    obtain ⟨v, hv⟩ := Option.isSome_iff_exists.1 h
    obtain ⟨hlt, rfl⟩ := digitValue?_eq_some.1 hv
    have hlength : v < alphabet.length := hlt
    rw [digit, List.getD_eq_getElem?_getD, List.getElem?_eq_getElem hlength]
    exact List.getElem_mem hlength
  · have table : alphabet.all (fun c => (digitValue? c).isSome) = true := by decide
    exact List.all_eq_true.1 table c

theorem digit_ne_pad {v : Nat} (h : v < 64) : digit v ≠ '=' := by
  intro heq
  have hvalue := digitValue?_digit h
  rw [heq] at hvalue
  cases hvalue

/-- A digit is added to a group that it does not fill. -/
theorem decodeFrom_digit {v : Nat} (h : v < 64) {group : List Nat} (hgroup : group.length ≠ 3)
    (groups pads : Nat) (rest : Text) :
    decodeFrom groups group pads false (digit v :: rest) =
      decodeFrom groups (group ++ [v]) 0 false rest := by
  rw [decodeFrom, if_neg (digit_ne_pad h), digitValue?_digit h]
  simp only [Bool.false_eq_true, if_false, hgroup]

/-- A digit that fills its group ends it. -/
theorem decodeFrom_fourth {v : Nat} (h : v < 64) {group : List Nat} (hgroup : group.length = 3)
    (groups pads : Nat) (rest : Text) :
    decodeFrom groups group pads false (digit v :: rest) =
      (decodeFrom (groups + 1) [] 0 false rest).map (groupBytes (group ++ [v]) ++ ·) := by
  rw [decodeFrom, if_neg (digit_ne_pad h), digitValue?_digit h]
  simp only [Bool.false_eq_true, if_false, hgroup, if_true]

/-- A byte is put together from the parts of it that stand in two digits. -/
theorem ofNat_parts {byte : UInt8} {n : Nat} (h : n % 256 = byte.toNat) : UInt8.ofNat n = byte := by
  rw [← UInt8.toNat_inj, UInt8.toNat_ofNat']
  exact h

/-- The groups of bytes are read one after another. -/
theorem decodeFrom_encode (bytes : Bytes) (groups : Nat) :
    decodeFrom groups [] 0 false (encode bytes) = .ok bytes := by
  fun_induction encode bytes generalizing groups with
  | case1 => rfl
  | case2 a =>
    -- two digits share a byte, and what is left of the second is not read
    have ha := a.toNat_lt
    have hfirst : UInt8.ofNat (a.toNat / 4 * 4 + a.toNat % 4 * 16 / 16) = a :=
      ofNat_parts (by omega)
    rw [decodeFrom_digit (by omega) (by simp), decodeFrom_digit (by omega) (by simp)]
    show Except.ok [UInt8.ofNat _] = _
    rw [hfirst]
  | case3 a b =>
    have ha := a.toNat_lt
    have hb := b.toNat_lt
    have hfirst : UInt8.ofNat (a.toNat / 4 * 4 + (a.toNat % 4 * 16 + b.toNat / 16) / 16) = a :=
      ofNat_parts (by omega)
    have hsecond :
        UInt8.ofNat ((a.toNat % 4 * 16 + b.toNat / 16) * 16 + b.toNat % 16 * 4 / 4) = b :=
      ofNat_parts (by omega)
    rw [decodeFrom_digit (by omega) (by simp), decodeFrom_digit (by omega) (by simp),
      decodeFrom_digit (by omega) (by simp)]
    show Except.ok [UInt8.ofNat _, UInt8.ofNat _] = _
    rw [hfirst, hsecond]
  | case4 a b c rest ih =>
    have ha := a.toNat_lt
    have hb := b.toNat_lt
    have hc := c.toNat_lt
    have hfirst : UInt8.ofNat (a.toNat / 4 * 4 + (a.toNat % 4 * 16 + b.toNat / 16) / 16) = a :=
      ofNat_parts (by omega)
    have hsecond : UInt8.ofNat ((a.toNat % 4 * 16 + b.toNat / 16) * 16 +
        (b.toNat % 16 * 4 + c.toNat / 64) / 4) = b := ofNat_parts (by omega)
    have hthird : UInt8.ofNat ((b.toNat % 16 * 4 + c.toNat / 64) * 64 + c.toNat % 64) = c :=
      ofNat_parts (by omega)
    rw [decodeFrom_digit (by omega) (by simp), decodeFrom_digit (by omega) (by simp),
      decodeFrom_digit (by omega) (by simp), decodeFrom_fourth (by omega) (by simp), ih]
    show Except.ok ([UInt8.ofNat _, UInt8.ofNat _, UInt8.ofNat _] ++ rest) = _
    rw [hfirst, hsecond, hthird]
    rfl

/-- A written text has digits and padding only. -/
theorem isSome_or_eq_of_mem_encode {bytes : Bytes} {c : Char} (h : c ∈ encode bytes) :
    (digitValue? c).isSome ∨ c = '=' := by
  have hdigit : ∀ {v}, v < 64 → (digitValue? (digit v)).isSome := fun hv => by
    rw [digitValue?_digit hv]
    rfl
  fun_induction encode bytes with
  | case1 => cases h
  | case2 a =>
    have ha := a.toNat_lt
    simp only [List.mem_cons, List.not_mem_nil, or_false] at h
    rcases h with rfl | rfl | rfl | rfl
    · exact .inl (hdigit (by omega))
    · exact .inl (hdigit (by omega))
    · exact .inr rfl
    · exact .inr rfl
  | case3 a b =>
    have ha := a.toNat_lt
    have hb := b.toNat_lt
    simp only [List.mem_cons, List.not_mem_nil, or_false] at h
    rcases h with rfl | rfl | rfl | rfl
    · exact .inl (hdigit (by omega))
    · exact .inl (hdigit (by omega))
    · exact .inl (hdigit (by omega))
    · exact .inr rfl
  | case4 a b c' rest ih =>
    have ha := a.toNat_lt
    have hb := b.toNat_lt
    have hc := c'.toNat_lt
    simp only [List.mem_cons] at h
    rcases h with rfl | rfl | rfl | rfl | hrest
    · exact .inl (hdigit (by omega))
    · exact .inl (hdigit (by omega))
    · exact .inl (hdigit (by omega))
    · exact .inl (hdigit (by omega))
    · exact ih hrest

theorem length_encode (bytes : Bytes) : (encode bytes).length % 4 = 0 := by
  fun_induction encode bytes with
  | case1 => rfl
  | case2 a => simp
  | case3 a b => simp
  | case4 a b c rest ih =>
    simp only [List.length_cons]
    omega

/-- The characters of written base64 are ASCII, are not blank, and belong to the standard
alphabet. -/
structure IsPlain (c : Char) : Prop where
  ascii : c.toNat < 0x80
  notBlank : isBlank c = false
  standard : toStandard c = c

theorem isPlain_of_mem_encode {bytes : Bytes} {c : Char} (h : c ∈ encode bytes) : IsPlain c := by
  rcases isSome_or_eq_of_mem_encode h with hdigit | rfl
  · obtain ⟨v, hv⟩ := Option.isSome_iff_exists.1 hdigit
    have hstandard : toStandard c = c := by
      rw [toStandard]
      split
      · rename_i hc
        rw [hc] at hv
        cases hv
      · split
        · rename_i hc
          rw [hc] at hv
          cases hv
        · rfl
    have hhigh := toNat_lt_of_digitValue? hv
    have hlow : 43 ≤ c.toNat := by grind [digitValue?]
    refine ⟨hhigh, ?_, hstandard⟩
    simp only [isBlank, Bool.or_eq_false_iff, Bool.and_eq_false_iff, decide_eq_false_iff_not,
      beq_eq_false_iff_ne]
    omega
  · exact ⟨by decide, by decide, by decide⟩

theorem trim_of_not_blank {t : Text} (h : ∀ c ∈ t, isBlank c = false) : t.trim = t := by
  have hstart : ∀ {u : Text}, (∀ c ∈ u, isBlank c = false) → u.dropWhile isBlank = u := by
    intro u hu
    cases u with
    | nil => rfl
    | cons c rest => rw [List.dropWhile_cons_of_neg (by simp [hu c List.mem_cons_self])]
  have hrev : ∀ c ∈ t.reverse, isBlank c = false := fun c hc => h c (List.mem_reverse.1 hc)
  rw [Text.trim, Text.trimStart, hstart h, Text.trimEnd, Text.dropEndWhile, hstart hrev,
    List.reverse_reverse]

/-- Whether a text writes bytes in either alphabet, with all of the padding, a part of it or
none. -/
def Spells (bytes : Bytes) (t : Text) : Prop :=
  ∃ missing, t.map toStandard ++ List.replicate missing '=' = encode bytes

theorem spells_encode (bytes : Bytes) : Spells bytes (encode bytes) := by
  refine ⟨0, ?_⟩
  rw [List.replicate_zero, List.append_nil]
  exact (List.map_congr_left fun c hc => (isPlain_of_mem_encode hc).standard).trans (List.map_id _)

/-- A written text has two characters of padding at most. -/
theorem count_pad_encode (bytes : Bytes) : (encode bytes).count '=' ≤ 2 := by
  have hdigit : ∀ {v}, v < 64 → ∀ rest : Text, (digit v :: rest).count '=' = rest.count '=' :=
    fun hv rest => List.count_cons_of_ne (digit_ne_pad hv)
  fun_induction encode bytes with
  | case1 => simp
  | case2 a =>
    have ha := a.toNat_lt
    rw [hdigit (by omega), hdigit (by omega)]
    decide
  | case3 a b =>
    have ha := a.toNat_lt
    have hb := b.toNat_lt
    rw [hdigit (by omega), hdigit (by omega), hdigit (by omega)]
    decide
  | case4 a b c rest ih =>
    have ha := a.toNat_lt
    have hb := b.toNat_lt
    have hc := c.toNat_lt
    rwa [hdigit (by omega), hdigit (by omega), hdigit (by omega), hdigit (by omega)]

theorem isBlank_of_toStandard {c : Char} (h : isBlank (toStandard c) = false) :
    isBlank c = false := by
  rw [toStandard] at h
  split at h
  · rename_i hc
    rw [hc]
    decide
  · split at h
    · rename_i hc
      rw [hc]
      decide
    · exact h

/-- The padding that is missing is made up. -/
theorem normalize_of_spells {bytes : Bytes} {t : Text} (h : Spells bytes t) :
    normalize t = encode bytes := by
  obtain ⟨missing, hwritten⟩ := h
  have hblank : ∀ c ∈ t, isBlank c = false := by
    intro c hc
    have hmem : toStandard c ∈ encode bytes := by
      rw [← hwritten]
      exact List.mem_append_left _ (List.mem_map_of_mem hc)
    exact isBlank_of_toStandard (isPlain_of_mem_encode hmem).notBlank
  have hcount : missing ≤ 2 := by
    have hpads := count_pad_encode bytes
    rw [← hwritten, List.count_append, List.count_replicate_self] at hpads
    omega
  have hlength : ((t.map toStandard).length + missing) % 4 = 0 := by
    have hfull := length_encode bytes
    rwa [← hwritten, List.length_append, List.length_replicate] at hfull
  have hmissing : (4 - (t.map toStandard).length % 4) % 4 = missing := by omega
  simp only [normalize, trim_of_not_blank hblank, padding, hmissing]
  exact hwritten

theorem head?_encode_ne_pad (bytes : Bytes) : (encode bytes).head? ≠ some '=' := by
  have hfirst : ∀ a : UInt8, digit (a.toNat / 4) ≠ '=' := fun a =>
    digit_ne_pad (by have := a.toNat_lt; omega)
  fun_cases encode bytes with
  | case1 => simp
  | case2 a => simp [hfirst a]
  | case3 a b => simp [hfirst a]
  | case4 a b c rest => simp [hfirst a]

/-- Bytes are read in whatever way they are written. -/
theorem decode_of_spells {bytes : Bytes} {t : Text} (h : Spells bytes t) :
    decode t = .ok bytes := by
  have hascii : ((encode bytes).any fun c => 0x80 ≤ c.toNat) = false := by
    rw [List.any_eq_false]
    intro c hc
    have := (isPlain_of_mem_encode hc).ascii
    simp only [decide_eq_true_eq]
    omega
  rw [decode, normalize_of_spells h, decodeStrict, hascii, if_neg Bool.false_ne_true,
    if_neg (head?_encode_ne_pad bytes), decodeFrom_encode]

/-- Written bytes are read as they are. -/
theorem decode_encode (bytes : Bytes) : decode (encode bytes) = .ok bytes :=
  decode_of_spells (spells_encode bytes)

end Retrace.Base64

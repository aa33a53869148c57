import Retrace.Number.Numeral

/-!
# Numerals read back

The number that is written is the number that is read, as long as it has no more digits than a
numeral may have.

* `isDigit_of_mem_natText`: only the digits of ASCII are written;
* `exists_digitValues_natText`: their values stand for the number.

Main statement: `readNumeral_natText`.
-/

namespace Retrace

theorem isDigit_of_mem_natText {n : Nat} {c : Char} (h : c ∈ natText n) : c.isDigit = true :=
  Nat.isDigit_of_mem_toDigits (by decide) (by decide) h

theorem natText_ne_nil (n : Nat) : natText n ≠ [] :=
  List.ne_nil_of_length_pos Nat.length_toDigits_pos

/-- The digits of ASCII are decimal. -/
theorem isDecimal_of_isDigit {c : Char} (h : c.isDigit = true) : isDecimal c = true := by
  obtain ⟨hlow, hhigh⟩ : 0x30 ≤ c.toNat ∧ c.toNat ≤ 0x39 := Char.isDigit_iff_toNat.1 h
  rw [isDecimal, decimalValue?, Option.isSome_map, List.find?_isSome]
  refine ⟨0x30, List.mem_cons_self, ?_⟩
  rw [Bool.and_eq_true, decide_eq_true_eq, decide_eq_true_eq]
  omega

theorem decimalValue?_digitChar {d : Nat} (h : d < 10) : decimalValue? d.digitChar = some d := by
  decide +revert

theorem ofDigitValues_concat (values : List Nat) (d : Nat) :
    ofDigitValues (values ++ [d]) = 10 * ofDigitValues values + d := by
  rw [ofDigitValues, List.foldl_append]
  rfl

/-- The values of the digits of a number stand for it. -/
theorem exists_digitValues_natText (n : Nat) :
    ∃ values, (natText n).mapM decimalValue? = some values ∧ ofDigitValues values = n := by
  induction n using Nat.strongRecOn with
  | ind n ih =>
    by_cases hn : n < 10
    · refine ⟨[n], ?_, Nat.zero_add n⟩
      rw [natText, Nat.toDigits_of_lt_base hn, List.mapM_cons, decimalValue?_digitChar hn]
      rfl
    · -- the last digit is the remainder, and the ones before it are those of the quotient
      obtain ⟨values, hvalues, hquotient⟩ := ih (n / 10) (by omega)
      refine ⟨values ++ [n % 10], ?_, ?_⟩
      · have hlast : [(n % 10).digitChar].mapM decimalValue? = some [n % 10] := by
          rw [List.mapM_cons, decimalValue?_digitChar (Nat.mod_lt n (by decide))]
          rfl
        rw [natText, Nat.toDigits_of_base_le (by decide) (by omega), List.mapM_append, ← natText,
          hvalues, hlast]
        rfl
      · rw [ofDigitValues_concat, hquotient]
        omega

theorem length_natText_le {n limit : Nat} (hlimit : 0 < limit) (h : n < Nat.pow 10 limit) :
    (natText n).length ≤ limit :=
  (Nat.length_toDigits_le_iff (by decide) hlimit).2 h

theorem lt_numeralBound_of_lt_ten {n : Nat} (h : n < 10) : n < numeralBound := by
  have hlimit : 0 < digitLimit := by decide
  unfold numeralBound
  revert hlimit
  generalize digitLimit = limit
  intro hlimit
  exact Nat.lt_of_lt_of_le h (Nat.le_pow hlimit)

/-- A number that is written is read back. -/
theorem readNumeral_natText {n : Nat} (h : n < numeralBound) : readNumeral (natText n) = .ok n := by
  obtain ⟨values, hvalues, hnumber⟩ := exists_digitValues_natText n
  refine readNumeral_eq_ok.2 ⟨?_, natText_ne_nil n, values, hvalues, hnumber.symm⟩
  have hlength : (natText n).length ≤ digitLimit := by
    unfold numeralBound at h
    exact length_natText_le (by decide) h
  exact Nat.le_trans (List.takeWhile_sublist isDecimal).length_le hlength

end Retrace

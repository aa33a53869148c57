import Mathlib.Data.List.Forall2
import Retrace.Proofs.Outcome
import Retrace.Proofs.Text.Base64
import Retrace.Proofs.Text.Ends
import Retrace.SourceMap.Reference

/-!
# Base64 as it is found

Who writes base64 into a source map may use the letters of the web alphabet, all of them or some,
may leave out padding, and may surround it with blanks. All these spellings are read as the same
bytes. A text with any other character is refused, and so is one whose letters cannot be the last
group of any bytes.

* `Base64.Alike`, `Base64.Found`: a letter as the web may write it, and a text as it may be found;
* `Base64.IsLetter`: the letters of both alphabets;
* `Base64.of_decodeFrom`: what the reader asks of the rest of a text.

Main statement: `base64Bytes_found`.
-/

namespace Retrace

namespace Base64

/-- Whether a character may be written for a letter of the standard alphabet. -/
def Alike (letter c : Char) : Prop :=
  c = letter ∨ letter = '+' ∧ c = '-' ∨ letter = '/' ∧ c = '_'

/-- The texts that stand for bytes: their base64 text with any of the padding at its end left out,
with any of its letters as the web may write them, and with blanks around it. -/
inductive Found (bytes : Bytes) : Text → Prop
  | mk {before digits written after : Text} {missing : Nat}
      (hdigits : digits ++ List.replicate missing '=' = encode bytes)
      (hwritten : List.Forall₂ Alike digits written)
      (hbefore : before.IsBlank) (hafter : after.IsBlank) :
      Found bytes (before ++ (written ++ after))

/-- Whether a character is a letter of the standard alphabet or of the web alphabet. -/
def IsLetter (c : Char) : Prop := c ∈ alphabet ∨ c = '-' ∨ c = '_'

instance (c : Char) : Decidable (IsLetter c) :=
  inferInstanceAs (Decidable (c ∈ alphabet ∨ c = '-' ∨ c = '_'))

/-! ### Spellings -/

theorem toStandard_of_alike {letter c : Char} (hplain : IsPlain letter) (h : Alike letter c) :
    toStandard c = letter := by
  rcases h with rfl | ⟨rfl, rfl⟩ | ⟨rfl, rfl⟩
  · exact hplain.standard
  · rfl
  · rfl

theorem map_toStandard_of_alike {digits written : Text} (hplain : ∀ c ∈ digits, IsPlain c)
    (h : List.Forall₂ Alike digits written) : written.map toStandard = digits := by
  induction h with
  | nil => rfl
  | cons hc hrest ih =>
    obtain ⟨hletter, hothers⟩ := List.forall_mem_cons.1 hplain
    rw [List.map_cons, toStandard_of_alike hletter hc, ih hothers]

/-- Blanks around a text are not read. -/
theorem decode_append_blanks {before after : Text} (hbefore : before.IsBlank)
    (hafter : after.IsBlank) (t : Text) : decode (before ++ (t ++ after)) = decode t := by
  rw [decode, decode, normalize, normalize, Text.trim_append_blanks hbefore hafter]

/-- Bytes are read from whatever text stands for them. -/
theorem decode_of_found {bytes : Bytes} {t : Text} (h : Found bytes t) : decode t = .ok bytes := by
  obtain @⟨before, digits, written, after, missing, hdigits, hwritten, hbefore, hafter⟩ := h
  have hplain : ∀ c ∈ digits, IsPlain c := fun c hc =>
    isPlain_of_mem_encode (hdigits ▸ List.mem_append_left _ hc)
  have hspells : Spells bytes written :=
    ⟨missing, by rw [map_toStandard_of_alike hplain hwritten, hdigits]⟩
  rw [decode_append_blanks hbefore hafter, decode_of_spells hspells]

/-! ### Refusals -/

/-- Whether a character is a digit of the standard alphabet. -/
def isDigit (c : Char) : Bool := (digitValue? c).isSome

/-- What is read has digits and padding only, and no digit is left over behind its groups. -/
theorem of_decodeFrom {t : Text} {groups pads : Nat} {group : List Nat} {padded : Bool}
    {bytes : Bytes} (hgroup : group.length ≤ 3)
    (h : decodeFrom groups group pads padded t = .ok bytes) :
    (∀ c ∈ t, isDigit c = true ∨ c = '=') ∧ (group.length + t.countP isDigit) % 4 ≠ 1 := by
  induction t generalizing groups group pads padded bytes with
  | nil =>
    unfold decodeFrom at h
    split at h
    · simp
    · cases h
    · cases h
  | cons c rest ih =>
    rw [decodeFrom] at h
    split at h
    · -- padding is no digit, and what fills up a group ends the text
      rename_i hpad
      subst hpad
      rw [List.countP_cons_of_neg (by decide), List.forall_mem_cons]
      split at h
      · split at h
        · split at h
          · rename_i hlong _ hend
            rw [List.isEmpty_iff.1 hend]
            refine ⟨⟨.inr rfl, by simp⟩, ?_⟩
            rw [List.countP_nil]
            omega
          · cases h
        · obtain ⟨hrest, hcount⟩ := ih hgroup h
          exact ⟨⟨.inr rfl, hrest⟩, hcount⟩
      · obtain ⟨hrest, hcount⟩ := ih hgroup h
        exact ⟨⟨.inr rfl, hrest⟩, hcount⟩
    · split at h
      · cases h
      · rename_i value hvalue
        have hdigit : isDigit c = true := by rw [isDigit, hvalue, Option.isSome_some]
        rw [List.countP_cons_of_pos hdigit, List.forall_mem_cons]
        split at h
        · cases h
        · split at h
          · rename_i hfull
            obtain ⟨others, hothers, -⟩ := map_eq_ok.1 h
            have hempty : ([] : List Nat).length ≤ 3 := by simp
            obtain ⟨hrest, hcount⟩ := ih hempty hothers
            refine ⟨⟨.inl hdigit, hrest⟩, ?_⟩
            rw [List.length_nil] at hcount
            omega
          · have hlength : (group ++ [value]).length = group.length + 1 := by simp
            obtain ⟨hrest, hcount⟩ := ih (by omega) h
            refine ⟨⟨.inl hdigit, hrest⟩, ?_⟩
            omega

theorem isDigit_toStandard {c : Char} : isDigit (toStandard c) = true ↔ IsLetter c := by
  rw [isDigit, isSome_digitValue?_iff, toStandard, IsLetter]
  split
  · rename_i hc
    exact iff_of_true (by decide) (.inr (.inl hc))
  · split
    · rename_i hc
      exact iff_of_true (by decide) (.inr (.inr hc))
    · rename_i hminus hunder
      simp [hminus, hunder]

theorem toStandard_eq_pad {c : Char} (h : toStandard c = '=') : c = '=' := by
  rw [toStandard] at h
  split at h
  · cases h
  · split at h
    · cases h
    · exact h

/-- A text that is read has letters and padding only, and no letter is left over. -/
theorem of_decode {t : Text} {bytes : Bytes} (h : decode t = .ok bytes) :
    (∀ c ∈ t.trim, IsLetter c ∨ c = '=') ∧ t.trim.countP (IsLetter ·) % 4 ≠ 1 := by
  rw [decode, decodeStrict] at h
  split at h
  · cases h
  · split at h
    · cases h
    · obtain ⟨hall, hcount⟩ := of_decodeFrom (by simp) h
      rw [normalize] at hall hcount
      constructor
      · intro c hc
        refine (hall (toStandard c) ?_).imp isDigit_toStandard.1 toStandard_eq_pad
        exact List.mem_append_left _ (List.mem_map_of_mem hc)
      · have hpads : (padding (t.trim.map toStandard).length).countP isDigit = 0 := by
          rw [padding, List.countP_replicate]
          rfl
        have hletters : (t.trim.map toStandard).countP isDigit = t.trim.countP (IsLetter ·) := by
          rw [List.countP_map]
          refine List.countP_congr fun c _ => ?_
          rw [Function.comp_apply, isDigit_toStandard, decide_eq_true_iff]
        rw [List.length_nil, List.countP_append, hpads, hletters, Nat.zero_add,
          Nat.add_zero] at hcount
        exact hcount

end Base64

/-- **Base64 is read in every spelling, and nothing else.** Bytes are read from their base64 text
with any of its letters in the web alphabet, any of the padding left out and any blanks around it. A
text that, trimmed, has a character other than letters and padding, or has one letter more than a
multiple of four, is refused. -/
theorem base64Bytes_found :
    (∀ bytes t, Base64.Found bytes t → base64Bytes t = .ok bytes) ∧
      ∀ t : Text, ((∃ c ∈ t.trim, ¬ Base64.IsLetter c ∧ c ≠ '=') ∨
          t.trim.countP (Base64.IsLetter ·) % 4 = 1) →
        ∃ fault, base64Bytes t = .error (.undecodable (.notBase64 fault)) := by
  constructor
  · intro bytes t h
    rw [base64Bytes, Base64.decode_of_found h]
  · intro t h
    rw [base64Bytes]
    cases hread : Base64.decode t with
    | error fault => exact ⟨fault, rfl⟩
    | ok bytes =>
      obtain ⟨hall, hcount⟩ := Base64.of_decode hread
      rcases h with ⟨c, hc, hletter, hpad⟩ | hone
      · exact ((hall c hc).elim hletter hpad).elim
      · exact absurd hone hcount

/-- Bytes in both alphabets at once, with one of two characters of padding, on a line of their own;
and five letters. -/
theorem base64Bytes_found_mixed :
    base64Bytes "\t+-_/_g=\n".toList = .ok [0xFB, 0xEF, 0xFF, 0xFE] ∧
      ∃ fault, base64Bytes "AAAAA".toList = .error (.undecodable (.notBase64 fault)) := by
  have hdigits : "++///g=".toList ++ List.replicate 1 '=' =
      Base64.encode [0xFB, 0xEF, 0xFF, 0xFE] := by decide
  have hwritten : List.Forall₂ Base64.Alike "++///g=".toList "+-_/_g=".toList := by
    simp [Base64.Alike]
  have hfound : Base64.Found [0xFB, 0xEF, 0xFF, 0xFE] "\t+-_/_g=\n".toList :=
    @Base64.Found.mk _ ['\t'] _ _ ['\n'] 1 hdigits hwritten (by decide) (by decide)
  exact ⟨base64Bytes_found.1 _ _ hfound, base64Bytes_found.2 _ (.inr (by decide))⟩

end Retrace

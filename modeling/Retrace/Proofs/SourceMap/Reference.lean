import Mathlib.Data.List.TakeWhile
import Retrace.Proofs.Text.Base64
import Retrace.Proofs.Text.Utf8
import Retrace.SourceMap.Reference

/-!
# Searching for references

No reference goes on over the end of a line, so a text is searched up to a line feed and behind it
separately, and a reference that starts a line is found whatever stands above it.

* `afterMarker?_append`: a line feed ends every marker that has begun;
* `references_append`: the references of a text are those of its parts;
* `markerText`, `base64Url`: a marker and a data URL as tools write them.

Main statements: `lastReference?_append_marker` and `dataUrlBytes_base64Url`.
-/

namespace Retrace

section Runs

variable {p : Char → Bool} {c : Char}

theorem takeWhile_append_of_not (h : p c = false) (before after : Text) :
    (before ++ c :: after).takeWhile p = before.takeWhile p := by
  induction before with
  | nil => simp [h]
  | cons x xs ih => simp only [List.cons_append, List.takeWhile_cons, ih]

theorem dropWhile_append_of_not (h : p c = false) (before after : Text) :
    (before ++ c :: after).dropWhile p = before.dropWhile p ++ c :: after := by
  induction before with
  | nil => simp [h]
  | cons x xs ih =>
    simp only [List.cons_append, List.dropWhile_cons, ih]
    split <;> rfl

/-- A character that a prefix does not have ends every attempt to read the prefix. -/
theorem afterPrefix?_append {expected : Text} (h : c ∉ expected) (before after : Text) :
    Text.afterPrefix? expected (before ++ c :: after) =
      (Text.afterPrefix? expected before).map (· ++ c :: after) := by
  induction expected generalizing before with
  | nil => rfl
  | cons x xs ih =>
    obtain ⟨hx, hxs⟩ := List.ne_and_not_mem_of_not_mem_cons h
    cases before with
    | nil => simp [Text.afterPrefix?, hx.symm]
    | cons y ys =>
      rw [List.cons_append, Text.afterPrefix?, Text.afterPrefix?, ih hxs]
      split <;> rfl

end Runs

theorem afterMarker?_slashes (mark : Char) (rest : Text) :
    afterMarker? ('/' :: '/' :: mark :: rest) =
      if mark = '#' ∨ mark = '@' then
        Text.afterPrefix? "sourceMappingURL=".toList (rest.dropWhile fun c => c = ' ' ∨ c = '\t')
      else none := rfl

theorem afterMarker?_of_not_slashes {a b : Char} (h : ¬ (a = '/' ∧ b = '/')) (rest : Text) :
    afterMarker? (a :: b :: rest) = none := by
  unfold afterMarker?
  split
  · rename_i heq
    cases heq
    exact absurd ⟨rfl, rfl⟩ h
  · rfl

/-- A line feed ends every marker that has begun. -/
theorem afterMarker?_append (before after : Text) :
    afterMarker? (before ++ '\n' :: after) = (afterMarker? before).map (· ++ '\n' :: after) := by
  -- a marker shows in three characters, and the line feed may be any of them or stand behind
  rcases before with _ | ⟨a, _ | ⟨b, _ | ⟨mark, rest⟩⟩⟩
  · cases after with
    | nil => rfl
    | cons x xs => exact afterMarker?_of_not_slashes (by simp) xs
  · have hfeed : ¬ (a = '/' ∧ '\n' = '/') := by simp
    have hnone : afterMarker? [a] = none := by
      unfold afterMarker?
      split
      · rename_i heq
        cases heq
      · rfl
    rw [hnone]
    exact afterMarker?_of_not_slashes hfeed after
  · by_cases h : a = '/' ∧ b = '/'
    · obtain ⟨rfl, rfl⟩ := h
      exact afterMarker?_slashes '\n' after
    · rw [List.cons_append, List.cons_append, afterMarker?_of_not_slashes h,
        afterMarker?_of_not_slashes h]
      rfl
  · by_cases h : a = '/' ∧ b = '/'
    · obtain ⟨rfl, rfl⟩ := h
      rw [List.cons_append, List.cons_append, List.cons_append, afterMarker?_slashes,
        afterMarker?_slashes]
      split
      · rw [dropWhile_append_of_not (by decide), afterPrefix?_append (by decide)]
      · rfl
    · rw [List.cons_append, List.cons_append, afterMarker?_of_not_slashes h,
        afterMarker?_of_not_slashes h]
      rfl

theorem references_of_afterMarker?_eq_none {c : Char} {rest : Text}
    (h : afterMarker? (c :: rest) = none) : references (c :: rest) = references rest := by
  rw [references]
  split
  · rename_i found hfound
    rw [h] at hfound
    cases hfound
  · rfl

/-- A text is searched line by line. -/
theorem references_append (before after : Text) :
    references (before ++ '\n' :: after) = references before ++ references after := by
  have hfeed : isReferenceChar '\n' = false := by decide
  -- a reference that was found ends before the line feed, and the search goes on there
  fun_induction references before with
  | case1 =>
    have hnone : afterMarker? ('\n' :: after) = none := afterMarker?_append [] after
    rw [List.nil_append, references_of_afterMarker?_eq_none hnone]
    rfl
  | case2 c rest found hfound ih =>
    have hmarker : afterMarker? (c :: rest ++ '\n' :: after) = some (found ++ '\n' :: after) := by
      rw [afterMarker?_append, hfound]
      rfl
    rw [references_of_afterMarker? hmarker, takeWhile_append_of_not hfeed,
      dropWhile_append_of_not hfeed, ih]
    rfl
  | case3 c rest hnone ih =>
    have hmarker : afterMarker? (c :: (rest ++ '\n' :: after)) = none := by
      rw [← List.cons_append, afterMarker?_append, hnone]
      rfl
    rw [List.cons_append, references_of_afterMarker?_eq_none hmarker, ih]

/-- The marker of a reference. -/
def markerText : Text := "//# sourceMappingURL=".toList

theorem afterMarker?_markerText (url : Text) : afterMarker? (markerText ++ url) = some url := rfl

theorem references_markerText {url : Text} (h : ∀ c ∈ url, isReferenceChar c = true) :
    references (markerText ++ url) = [url] := by
  rw [references_of_afterMarker? (afterMarker?_markerText url), List.takeWhile_eq_self_iff.2 h,
    List.dropWhile_eq_nil_iff.2 h, references]

/-- Whether a text is empty or ends with a line feed. -/
def EndsLine (t : Text) : Prop := t = [] ∨ t.getLast? = some '\n'

/-- A reference at the end that starts a line is the last one. -/
theorem lastReference?_append_marker {before url : Text} (hbefore : EndsLine before)
    (h : ∀ c ∈ url, isReferenceChar c = true) :
    lastReference? (before ++ (markerText ++ url)) = some url := by
  rw [lastReference?]
  rcases hbefore with rfl | hlast
  · rw [List.nil_append, references_markerText h]
    rfl
  · obtain ⟨lines, rfl⟩ := List.getLast?_eq_some_iff.1 hlast
    rw [List.append_assoc, List.singleton_append, references_append, references_markerText h]
    exact List.getLast?_concat

/-- The data URL of bytes, as base64 of the media type of JSON. -/
def base64Url (bytes : Bytes) : Text :=
  "data:application/json;base64,".toList ++ Base64.encode bytes

theorem isInline_base64Url (bytes : Bytes) :
    Text.startsWith dataScheme (base64Url bytes) = true := rfl

theorem dataUrlBytes_base64Url (bytes : Bytes) : dataUrlBytes (base64Url bytes) = .ok bytes := by
  have hcut : (Text.afterPrefix? dataScheme (base64Url bytes)).bind (Text.cutAt? ',') =
      some ("application/json;base64".toList, Base64.encode bytes) := rfl
  have hsays : saysBase64 "application/json;base64".toList = true := by decide
  rw [dataUrlBytes, hcut]
  dsimp only
  rw [if_pos hsays, base64Bytes, Base64.decode_encode]

theorem isReferenceChar_of_mem_base64Url {bytes : Bytes} {c : Char} (h : c ∈ base64Url bytes) :
    isReferenceChar c = true := by
  rcases List.mem_append.1 h with hscheme | hdata
  · have hall : "data:application/json;base64,".toList.all isReferenceChar = true := rfl
    exact List.all_eq_true.1 hall c hscheme
  · rcases Base64.isSome_or_eq_of_mem_encode hdata with hdigit | rfl
    · have hquotes : c ≠ '\'' ∧ c ≠ '"' := by
        refine ⟨?_, ?_⟩ <;>
        · rintro rfl
          cases hdigit
      rw [isReferenceChar, (Base64.isPlain_of_mem_encode hdata).notBlank]
      simp [hquotes]
    · decide

end Retrace

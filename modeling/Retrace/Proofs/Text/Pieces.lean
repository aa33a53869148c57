import Retrace.Text.Basic

/-!
# Cutting and joining

Cutting a text at a separator undoes joining pieces around it, as long as no piece holds the
separator and there is a piece at all.

* `pieces_append_sep`: a separator cuts a text in two, whatever stands around it;
* `mem_of_mem_pieces`: no piece holds the separator, nor a character that the text has not;
* `pieces_of_not_mem`: a text without the separator is its only piece;
* `pieces_eq_splitOn`, `joined_eq_intercalate`: cutting and joining are those of lists.

Main statement: `pieces_joined`.
-/

namespace Retrace.Text

variable {sep : Char}

theorem pieces_of_not_mem {t : Text} (h : sep ∉ t) : pieces sep t = [t] := by
  induction t with
  | nil => rfl
  | cons c rest ih =>
    obtain ⟨hc, hrest⟩ := List.ne_and_not_mem_of_not_mem_cons h
    rw [pieces, if_neg hc.symm, ih hrest]

theorem pieces_append_sep (before after : Text) :
    pieces sep (before ++ sep :: after) = pieces sep before ++ pieces sep after := by
  induction before with
  | nil => simp [pieces]
  | cons c rest ih =>
    rw [List.cons_append, pieces, pieces, ih]
    split
    · rfl
    · cases hp : pieces sep rest with
      | nil => exact absurd hp (pieces_ne_nil sep rest)
      | cons first others => rfl

theorem mem_of_mem_pieces {c : Char} {t piece : Text} (hpiece : piece ∈ pieces sep t)
    (hc : c ∈ piece) : c ∈ t ∧ c ≠ sep := by
  induction t generalizing piece with
  | nil =>
    rw [pieces_nil, List.mem_singleton] at hpiece
    simp [hpiece] at hc
  | cons d rest ih =>
    rw [pieces] at hpiece
    by_cases hd : d = sep
    · rw [if_pos hd] at hpiece
      rcases List.mem_cons.1 hpiece with rfl | hrest
      · simp at hc
      · obtain ⟨hmem, hne⟩ := ih hrest hc
        exact ⟨List.mem_cons_of_mem _ hmem, hne⟩
    · rw [if_neg hd] at hpiece
      cases hcut : pieces sep rest with
      | nil => exact absurd hcut (pieces_ne_nil sep rest)
      | cons first others =>
        rw [hcut] at ih hpiece
        rcases List.mem_cons.1 hpiece with rfl | hothers
        · rcases List.mem_cons.1 hc with rfl | hfirst
          · exact ⟨List.mem_cons_self, hd⟩
          · obtain ⟨hmem, hne⟩ := ih List.mem_cons_self hfirst
            exact ⟨List.mem_cons_of_mem _ hmem, hne⟩
        · obtain ⟨hmem, hne⟩ := ih (List.mem_cons_of_mem _ hothers) hc
          exact ⟨List.mem_cons_of_mem _ hmem, hne⟩

/-- Cutting undoes joining. -/
theorem pieces_joined {ps : List Text} (hne : ps ≠ []) (h : ∀ piece ∈ ps, sep ∉ piece) :
    pieces sep (joined [sep] ps) = ps := by
  induction ps with
  | nil => exact absurd rfl hne
  | cons piece others ih =>
    have hpiece := pieces_of_not_mem (h piece List.mem_cons_self)
    by_cases hothers : others = []
    · subst hothers
      exact hpiece
    · rw [joined_cons _ _ hothers, List.append_assoc, List.singleton_append, pieces_append_sep,
        hpiece, ih hothers fun p hp => h p (List.mem_cons_of_mem _ hp)]
      rfl

theorem not_mem_joined {c : Char} (hsep : c ≠ sep) {ps : List Text}
    (h : ∀ piece ∈ ps, c ∉ piece) : c ∉ joined [sep] ps := by
  induction ps with
  | nil => exact List.not_mem_nil
  | cons piece others ih =>
    have hothers := ih fun p hp => h p (List.mem_cons_of_mem _ hp)
    by_cases hnil : others = []
    · subst hnil
      exact h piece List.mem_cons_self
    · rw [joined_cons _ _ hnil]
      simp [h piece List.mem_cons_self, hothers, hsep]

/-- Cutting a text is cutting a list. -/
theorem pieces_eq_splitOn (sep : Char) (t : Text) : pieces sep t = t.splitOn sep := by
  induction t with
  | nil => rfl
  | cons c rest ih =>
    rw [pieces, List.splitOn_cons_eq_if_modifyHead, ← ih]
    cases h : pieces sep rest with
    | nil => exact absurd h (pieces_ne_nil sep rest)
    | cons first others => simp

/-- Joining texts is joining lists. -/
theorem joined_eq_intercalate (sep : Text) (ps : List Text) :
    joined sep ps = sep.intercalate ps := by
  induction ps with
  | nil => rfl
  | cons piece others ih =>
    cases others with
    | nil => simp [joined]
    | cons next more =>
      rw [joined_cons _ _ (List.cons_ne_nil _ _), ih, List.intercalate_cons_cons]

end Retrace.Text

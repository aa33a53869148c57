import Mathlib.Data.List.DropRight
import Retrace.Text.Blank

/-!
# Ends of texts

What is cut off the ends of a text, and what stops it.

* `dropEndWhile_append_cons`, `takeEndWhile_append_cons`: a run at the end reaches back to the last
  character that is none of its class;
* `IsBlank`: the texts that are trimmed away, of which `trimEnd` finds one.

Main statements: `trim_append_blanks`, blanks around a text are trimmed away, and `trim_trim`, what
was trimmed is trimmed.
-/

namespace Retrace.Text

variable {p : Char → Bool} {t run : Text} {c : Char}

theorem dropEndWhile_append_cons (hrun : ∀ d ∈ run, p d = true) (hc : p c = false) :
    dropEndWhile p (t ++ c :: run) = t ++ [c] := by
  have hreverse : ∀ d ∈ run.reverse, p d = true := fun d hd => hrun d (List.mem_reverse.1 hd)
  rw [dropEndWhile, List.reverse_append, List.reverse_cons, List.append_assoc,
    List.dropWhile_append_of_pos hreverse, List.singleton_append,
    List.dropWhile_cons_of_neg (by simp [hc]), List.reverse_cons, List.reverse_reverse]

theorem takeEndWhile_append_cons (hrun : ∀ d ∈ run, p d = true) (hc : p c = false) :
    takeEndWhile p (t ++ c :: run) = run := by
  have hsplit := dropEndWhile_append_takeEndWhile p (t ++ c :: run)
  rw [dropEndWhile_append_cons hrun hc, List.append_assoc, List.singleton_append] at hsplit
  exact (List.cons_inj_right c).1 (List.append_cancel_left hsplit)

theorem of_mem_takeEndWhile (h : c ∈ takeEndWhile p t) : p c = true := by
  rw [takeEndWhile, List.mem_reverse] at h
  exact List.mem_takeWhile_imp h

/-- Whether a text is made of blanks. -/
def IsBlank (t : Text) : Prop := ∀ c ∈ t, isBlank c = true

instance (t : Text) : Decidable t.IsBlank :=
  decidable_of_iff (t.all isBlank = true) List.all_eq_true

/-- A text is what is left when its end is trimmed, and blanks. -/
theorem exists_trimEnd_append (t : Text) : ∃ trail : Text, trail.IsBlank ∧ t = trimEnd t ++ trail :=
  ⟨_, fun _ hc => of_mem_takeEndWhile hc, (dropEndWhile_append_takeEndWhile isBlank t).symm⟩

/-- To trim the end brings no blank to the start. -/
theorem trimStart_trim (t : Text) : trimStart (trim t) = trim t := by
  obtain ⟨rest, hrest⟩ := List.rdropWhile_prefix (l := trimStart t) isBlank
  change trim t ++ rest = trimStart t at hrest
  cases htrim : trim t with
  | nil => rfl
  | cons c others =>
    -- the first character that is left was also the first before the end was trimmed
    have hhead := List.head?_dropWhile_not isBlank t
    rw [← trimStart, ← hrest, htrim] at hhead
    exact List.dropWhile_cons_of_neg (by simpa using hhead)

theorem trimEnd_append_blanks {after : Text} (hafter : after.IsBlank) (t : Text) :
    trimEnd (t ++ after) = trimEnd t := by
  have hreverse : ∀ c ∈ after.reverse, isBlank c = true := fun c hc =>
    hafter c (List.mem_reverse.1 hc)
  rw [trimEnd, dropEndWhile, List.reverse_append, List.dropWhile_append_of_pos hreverse]
  rfl

/-- Blanks at either end make no difference to what is left. -/
theorem trim_append_blanks {before after : Text} (hbefore : before.IsBlank) (hafter : after.IsBlank)
    (t : Text) : trim (before ++ (t ++ after)) = trim t := by
  rw [trim, trim, trimStart, List.dropWhile_append_of_pos hbefore]
  induction t with
  | nil =>
    rw [List.nil_append, List.dropWhile_eq_nil_iff.2 hafter]
    rfl
  | cons c rest ih =>
    by_cases hc : isBlank c = true
    · rw [List.cons_append, List.dropWhile_cons_of_pos hc, ih, trimStart, trimStart,
        List.dropWhile_cons_of_pos hc]
    · rw [List.cons_append, List.dropWhile_cons_of_neg hc, trimStart,
        List.dropWhile_cons_of_neg hc, ← List.cons_append, trimEnd_append_blanks hafter]

/-- What was trimmed is trimmed. -/
theorem trim_trim (t : Text) : trim (trim t) = trim t := by
  have hend : trimEnd (trimEnd (trimStart t)) = trimEnd (trimStart t) :=
    List.rdropWhile_idempotent isBlank (trimStart t)
  rw [trim, trimStart_trim]
  exact hend

end Retrace.Text

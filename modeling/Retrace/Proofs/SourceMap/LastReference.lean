import Mathlib.Data.List.Infix
import Retrace.Proofs.SourceMap.Reference

/-!
# The last reference

A marker is found wherever it stands, so a text without any has no reference. One that starts a line
is found whatever stands above it, since no reference goes on over the end of a line, and it is the
last one if none stands behind its reference.

* `Marker`: the markers of references;
* `HasMarker`: the texts with a marker somewhere in them;
* `references_eq_nil_iff`: these are the texts with references.

Main statement: `lastReference?_marker`.
-/

namespace Retrace

/-- The markers of references: two slashes, one of two marks, and the word behind any blanks. -/
inductive Marker : Text → Prop
  | mk {mark : Char} {blanks : Text} (hmark : mark = '#' ∨ mark = '@')
      (hblanks : ∀ c ∈ blanks, c = ' ' ∨ c = '\t') :
      Marker ('/' :: '/' :: mark :: (blanks ++ "sourceMappingURL=".toList))

/-- Whether a marker stands somewhere in a text. -/
def HasMarker (t : Text) : Prop := ∃ marker, Marker marker ∧ marker <:+: t

theorem Marker.ne_nil {marker : Text} (h : Marker marker) : marker ≠ [] := by
  cases h
  exact List.cons_ne_nil _ _

/-- What follows a marker at the start of a text is what the marker leaves of it. -/
theorem afterMarker?_eq_some {t after : Text} :
    afterMarker? t = some after ↔ ∃ marker, Marker marker ∧ t = marker ++ after := by
  constructor
  · intro h
    unfold afterMarker? at h
    split at h
    · rename_i mark rest
      split at h
      · rename_i hmark
        have hsplit := Text.afterPrefix?_eq_some.1 h
        have hrest := List.takeWhile_append_dropWhile (p := fun c : Char => c = ' ' ∨ c = '\t')
          (l := rest)
        rw [hsplit] at hrest
        have hblanks : ∀ c ∈ rest.takeWhile (fun c : Char => c = ' ' ∨ c = '\t'),
            c = ' ' ∨ c = '\t' := fun c hc => by simpa using List.mem_takeWhile_imp hc
        refine ⟨_, .mk hmark hblanks, ?_⟩
        rw [List.cons_append, List.cons_append, List.cons_append, List.append_assoc, hrest]
      · cases h
    · cases h
  · rintro ⟨_, @⟨mark, blanks, hmark, hblanks⟩, rfl⟩
    have hdrop : (blanks ++ ("sourceMappingURL=".toList ++ after)).dropWhile
        (fun c => c = ' ' ∨ c = '\t') = "sourceMappingURL=".toList ++ after := by
      rw [List.dropWhile_append_of_pos (by simpa using hblanks)]
      rfl
    rw [List.cons_append, List.cons_append, List.cons_append, List.append_assoc,
      afterMarker?_slashes, if_pos hmark, hdrop]
    exact Text.afterPrefix?_eq_some.2 rfl

theorem afterMarker?_eq_none {t : Text} :
    afterMarker? t = none ↔ ∀ marker, Marker marker → ¬ marker <+: t := by
  rw [Option.eq_none_iff_forall_ne_some]
  constructor
  · rintro h marker hmarker ⟨after, rfl⟩
    exact h after (afterMarker?_eq_some.2 ⟨marker, hmarker, rfl⟩)
  · intro h after hafter
    obtain ⟨marker, hmarker, rfl⟩ := afterMarker?_eq_some.1 hafter
    exact h marker hmarker (List.prefix_append marker after)

/-- A text has no references exactly if no marker stands in it. -/
theorem references_eq_nil_iff {t : Text} : references t = [] ↔ ¬ HasMarker t := by
  induction t with
  | nil =>
    refine iff_of_true (by rw [references]) ?_
    rintro ⟨marker, hmarker, hwithin⟩
    exact hmarker.ne_nil (List.eq_nil_of_infix_nil hwithin)
  | cons c rest ih =>
    cases hfound : afterMarker? (c :: rest) with
    | some after =>
      rw [references_of_afterMarker? hfound]
      refine iff_of_false (List.cons_ne_nil _ _) (not_not_intro ?_)
      obtain ⟨marker, hmarker, hsplit⟩ := afterMarker?_eq_some.1 hfound
      exact ⟨marker, hmarker, hsplit ▸ (List.prefix_append marker after).isInfix⟩
    | none =>
      rw [references_of_afterMarker?_eq_none hfound, ih]
      have hstart := afterMarker?_eq_none.1 hfound
      refine not_congr (exists_congr fun marker => and_congr_right fun hmarker => ?_)
      rw [List.infix_cons_iff, or_iff_right (hstart marker hmarker)]

/-- The references behind a marker at the start: its own, and those behind that. -/
theorem references_marker {marker url after : Text} (hmarker : Marker marker)
    (hurl : ∀ c ∈ url, isReferenceChar c = true)
    (hstops : ∀ c ∈ after.head?, isReferenceChar c = false) :
    references (marker ++ (url ++ after)) = url :: references after := by
  have hfound : afterMarker? (marker ++ (url ++ after)) = some (url ++ after) :=
    afterMarker?_eq_some.2 ⟨marker, hmarker, rfl⟩
  have htake : after.takeWhile isReferenceChar = [] := by
    cases after with
    | nil => rfl
    | cons c rest => exact List.takeWhile_cons_of_neg (by simp [hstops c rfl])
  have hdrop : after.dropWhile isReferenceChar = after := by
    cases after with
    | nil => rfl
    | cons c rest => exact List.dropWhile_cons_of_neg (by simp [hstops c rfl])
  rw [references_of_afterMarker? hfound, List.takeWhile_append_of_pos hurl,
    List.dropWhile_append_of_pos hurl, htake, hdrop, List.append_nil]

/-- What ends a line is searched by itself. -/
theorem references_append_of_endsLine {before : Text} (h : EndsLine before) (after : Text) :
    references (before ++ after) = references before ++ references after := by
  rcases h with rfl | hlast
  · rw [references]
    rfl
  · obtain ⟨lines, rfl⟩ := List.getLast?_eq_some_iff.1 hlast
    have hlines : references (lines ++ ['\n']) = references lines := by
      rw [references_append, references, List.append_nil]
    rw [List.append_assoc, List.singleton_append, references_append, hlines]

/-- **The last marker wins.** The reference of a marker that starts a line is that of the text,
whatever stands above it, unless another marker stands behind its reference. A text has no reference
exactly if no marker stands in it. -/
theorem lastReference?_marker :
    (∀ before marker url after : Text, EndsLine before → Marker marker →
        (∀ c ∈ url, isReferenceChar c = true) →
        (∀ c ∈ after.head?, isReferenceChar c = false) → ¬ HasMarker after →
          lastReference? (before ++ (marker ++ (url ++ after))) = some url) ∧
      ∀ t : Text, lastReference? t = none ↔ ¬ HasMarker t := by
  constructor
  · intro before marker url after hbefore hmarker hurl hstops hafter
    rw [lastReference?, references_append_of_endsLine hbefore,
      references_marker hmarker hurl hstops, references_eq_nil_iff.2 hafter]
    exact List.getLast?_concat
  · intro t
    rw [lastReference?, List.getLast?_eq_none_iff, references_eq_nil_iff]

/-- A reference before a quote, below a line with another one and above a marker that breaks off. -/
theorem lastReference?_marker_quoted :
    lastReference? ("x //# sourceMappingURL=//@ sourceMappingURL=old\n".toList ++
      ("//@\t sourceMappingURL=".toList ++ ("b.map".toList ++ "' //# sourceMapping\n".toList))) =
        some "b.map".toList := by
  have hmarker : Marker "//@\t sourceMappingURL=".toList :=
    @Marker.mk '@' ['\t', ' '] (.inr rfl) (by simp)
  have hafter : ¬ HasMarker "' //# sourceMapping\n".toList := by
    rintro ⟨_, @⟨mark, blanks, -, -⟩, hwithin⟩
    have hsign : '=' ∈ '/' :: '/' :: mark :: (blanks ++ "sourceMappingURL=".toList) := by simp
    exact absurd (hwithin.subset hsign) (by decide)
  have hurl : ∀ c ∈ "b.map".toList, isReferenceChar c = true := List.all_eq_true.1 rfl
  have hstops : ∀ c ∈ "' //# sourceMapping\n".toList.head?, isReferenceChar c = false := by
    rintro c ⟨⟩
    rfl
  exact lastReference?_marker.1 _ _ _ _ (.inr (by decide)) hmarker hurl hstops hafter

end Retrace

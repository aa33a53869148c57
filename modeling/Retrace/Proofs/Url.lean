import Retrace.Proofs.Text.Percent
import Retrace.Url.Basic

/-!
# Two ways to write a served path

A path that starts with one slash can stand alone or after a scheme and a host. Both are taken
apart into the same path, and the first has neither scheme nor authority.

* `Url.isHostChar`: the characters of a host that needs no brackets;
* `Url.IsRootedPath`: the paths that start with one slash and go on to the end of a URL.

Main statements: `split_rooted` and `split_web`.
-/

namespace Retrace.Url

/-- Whether a character may stand in a host without brackets. -/
def isHostChar (c : Char) : Bool :=
  decide (0x20 < c.toNat) && !(['/', '?', '#', '[', ']'].contains c)
    && !(disguisedDelimiters.contains c.toNat)

/-- Whether a text is a path that starts with one slash and goes on to the end of a URL. -/
structure IsRootedPath (p : Text) : Prop where
  slash : p.head? = some '/'
  single : ∀ rest, p ≠ '/' :: '/' :: rest
  counts : ∀ c ∈ p, 0x20 < c.toNat
  query : '?' ∉ p
  mark : '#' ∉ p

variable {host p : Text}

/-- No scheme starts with a slash. -/
theorem schemeOf_of_slash (h : p.head? = some '/') : schemeOf p = none := by
  cases hcut : p.cutAt? ':' with
  | none => simp [schemeOf, hcut]
  | some cut =>
    obtain ⟨name, rest⟩ := cut
    obtain ⟨rfl, -⟩ := Text.cutAt?_eq_some.1 hcut
    cases name with
    | nil => cases h
    | cons c others =>
      obtain rfl : c = '/' := Option.some.inj h
      rw [schemeOf, hcut]
      rfl

theorem IsRootedPath.upTo_eq (h : IsRootedPath p) : upTo '?' (upTo '#' p) = p := by
  rw [upTo_of_not_mem h.mark, upTo_of_not_mem h.query]

/-- A path that starts with one slash is read as itself. -/
theorem split_rooted (h : IsRootedPath p) : split p = .ok ⟨[], [], p⟩ := by
  have hauthority : authorityOf p = ([], p) := by
    rw [authorityOf]
    exact h.single
  simp [split, clean_of_forall h.counts, schemeOf_of_slash h.slash, hauthority, authorityFault?,
    h.upTo_eq]

theorem isHostChar_eq_true {c : Char} :
    isHostChar c = true ↔ 0x20 < c.toNat ∧ c ∉ ['/', '?', '#', '[', ']'] ∧
      c.toNat ∉ disguisedDelimiters := by
  simp only [isHostChar, Bool.and_eq_true, Bool.not_eq_true', decide_eq_true_eq,
    List.contains_eq_mem, decide_eq_false_iff_not, and_assoc]

/-- The scheme of the web in front of a host. -/
theorem schemeOf_web (rest : Text) :
    schemeOf ("http://".toList ++ rest) = some ("http".toList, '/' :: '/' :: rest) := rfl

/-- The authority ends where the path begins. -/
theorem authorityOf_host (hhost : ∀ c ∈ host, isHostChar c = true) (h : p.head? = some '/') :
    authorityOf ('/' :: '/' :: (host ++ p)) = (host, p) := by
  have hgoes : ∀ c ∈ host, decide (c ≠ '/' ∧ c ≠ '?' ∧ c ≠ '#') = true := by
    intro c hc
    have hplain := (isHostChar_eq_true.1 (hhost c hc)).2.1
    simp only [List.mem_cons, not_or] at hplain
    exact decide_eq_true ⟨hplain.1, hplain.2.1, hplain.2.2.1⟩
  obtain ⟨rest, rfl⟩ := List.head?_eq_some_iff.1 h
  rw [authorityOf, List.takeWhile_append_of_pos hgoes, List.dropWhile_append_of_pos hgoes]
  simp

/-- A path that starts with one slash is read as itself behind a host of the web. -/
theorem split_web (hhost : ∀ c ∈ host, isHostChar c = true) (h : IsRootedPath p) :
    split ("http://".toList ++ (host ++ p)) = .ok ⟨"http".toList, host, p⟩ := by
  have hcounts : ∀ c ∈ "http://".toList ++ (host ++ p), 0x20 < c.toNat := by
    have hscheme : ∀ c ∈ "http://".toList, 0x20 < c.toNat := by simp
    intro c hc
    rcases List.mem_append.1 hc with hc | hc
    · exact hscheme c hc
    rcases List.mem_append.1 hc with hc | hc
    · exact (isHostChar_eq_true.1 (hhost c hc)).1
    · exact h.counts c hc
  have hopening : '[' ∉ host := fun hmem => absurd (hhost _ hmem) (by decide)
  have hclosing : ']' ∉ host := fun hmem => absurd (hhost _ hmem) (by decide)
  have hfault : authorityFault? host = none := by
    simp [authorityFault?, hopening, hclosing]
  have hdisguised : (host.any fun c => disguisedDelimiters.contains c.toNat) = false := by
    rw [List.any_eq_false]
    intro c hc
    simpa using (isHostChar_eq_true.1 (hhost c hc)).2.2
  rw [split, clean_of_forall hcounts, schemeOf_web]
  simp only [Option.getD_some, authorityOf_host hhost h.slash, hfault, hdisguised, h.upTo_eq,
    Bool.false_eq_true, if_false]

end Retrace.Url

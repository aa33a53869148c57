import Mathlib.Data.List.Chain
import Mathlib.Data.List.Infix
import Retrace.Path.Local

/-!
# The longest suffix that is a path

What the reader of local locations goes through character by character is a form that can be said at
once: after a drive or none, a run of names and separators in which no two separators stand together
and no separator ends it. The search from the left stops at the first suffix of this form, which is
the longest, and what it finds is found again.

* `IsRun`, `IsLocal`: the form;
* `IsLongestLocal`: the longest suffix of the form;
* `isPathLike_iff`, `localSuffix?_eq_some_iff`, `localSuffix?_eq_none_iff`: the reader goes by it;
* `localPath_eq_self_iff`: the locations that are left as they are.

Main statement: `localPath_longest`.
-/

namespace Retrace

variable {t s location path : Text} {c : Char} {state : RunState}

/-- Whether a text is a run of names and separators. -/
structure IsRun (t : Text) : Prop where
  ne_nil : t ≠ []
  chars : ∀ c ∈ t, isNameChar c = true ∨ isSeparator c = true
  apart : t.IsChain fun a b => isSeparator a = true → isSeparator b = false
  last : ∀ c ∈ t.getLast?, isSeparator c = false

/-- Whether a text is a local path: a run, after a drive or not. A drive is a capital letter and a
colon. -/
inductive IsLocal : Text → Prop
  | drive {letter : Char} {run : Text} (hletter : letter.isUpper = true) (h : IsRun run) :
      IsLocal (letter :: ':' :: run)
  | plain {run : Text} (h : IsRun run) : IsLocal run

/-- Whether a text is the longest suffix of another that is a local path. -/
structure IsLongestLocal (t s : Text) : Prop where
  suffix : s <:+ t
  isLocal : IsLocal s
  longest : ∀ other, other <:+ t → IsLocal other → other.length ≤ s.length

/-! ### The form -/

theorem isSeparator_of_isNameChar (h : isNameChar c = true) : isSeparator c = false := by
  rw [Bool.eq_false_iff]
  intro hsep
  rcases (by simpa [isSeparator] using hsep : c = '/' ∨ c = '\\') with rfl | rfl <;> cases h

theorem IsRun.not_mem (h : IsRun t) (hname : isNameChar c = false)
    (hsep : isSeparator c = false) : c ∉ t := by
  intro hmem
  rcases h.chars c hmem with hc | hc
  · rw [hname] at hc
    cases hc
  · rw [hsep] at hc
    cases hc

/-- A name goes on to the end or with a run. -/
theorem isRun_cons_of_isNameChar (h : isNameChar c = true) :
    IsRun (c :: t) ↔ t = [] ∨ IsRun t := by
  have hsep := isSeparator_of_isNameChar h
  cases t with
  | nil =>
    refine iff_of_true ⟨by simp, by simp [h], .singleton c, by simp [hsep]⟩ (.inl rfl)
  | cons d rest =>
    constructor
    · rintro ⟨-, hchars, hapart, hlast⟩
      exact .inr ⟨by simp, (List.forall_mem_cons.1 hchars).2, (List.isChain_cons_cons.1 hapart).2,
        by simpa using hlast⟩
    · intro hrest
      obtain ⟨-, hchars, hapart, hlast⟩ := hrest.resolve_left (List.cons_ne_nil d rest)
      exact ⟨by simp, List.forall_mem_cons.2 ⟨.inl h, hchars⟩,
        List.isChain_cons_cons.2 ⟨by simp [hsep], hapart⟩, by simpa using hlast⟩

/-- A separator goes on with a run that starts with a name. -/
theorem isRun_cons_of_isSeparator (h : isSeparator c = true) :
    IsRun (c :: t) ↔ IsRun t ∧ ∀ d ∈ t.head?, isSeparator d = false := by
  cases t with
  | nil =>
    refine iff_of_false (fun hrun => ?_) (fun hrun => hrun.1.ne_nil rfl)
    have := hrun.last c rfl
    rw [h] at this
    cases this
  | cons d rest =>
    constructor
    · rintro ⟨-, hchars, hapart, hlast⟩
      obtain ⟨hfirst, hrest⟩ := List.isChain_cons_cons.1 hapart
      exact ⟨⟨by simp, (List.forall_mem_cons.1 hchars).2, hrest, by simpa using hlast⟩,
        by simpa using hfirst h⟩
    · rintro ⟨⟨-, hchars, hapart, hlast⟩, hfirst⟩
      exact ⟨by simp, List.forall_mem_cons.2 ⟨.inr h, hchars⟩,
        List.isChain_cons_cons.2 ⟨fun _ => hfirst d rfl, hapart⟩, by simpa using hlast⟩

/-- The reader of runs stands behind a name, where the run may end, or behind a separator, where no
other may follow. -/
theorem isRunFrom_iff : isRunFrom state t = true ↔ (t = [] ∧ state = .name) ∨
    IsRun t ∧ (state = .separator → ∀ c ∈ t.head?, isSeparator c = false) := by
  induction t generalizing state with
  | nil =>
    have hrun : ¬ IsRun [] := fun h => h.ne_nil rfl
    simp [isRunFrom, hrun]
  | cons c rest ih =>
    rw [isRunFrom]
    by_cases hname : isNameChar c = true
    · have hsep := isSeparator_of_isNameChar hname
      rw [if_pos hname, ih, isRun_cons_of_isNameChar hname]
      simp [hsep]
    · rw [if_neg hname, Bool.and_eq_true, Bool.and_eq_true, ih]
      by_cases hsep : isSeparator c = true
      · rw [isRun_cons_of_isSeparator hsep]
        simp [hsep, and_comm]
      · have hrun : ¬ IsRun (c :: rest) := fun h => (h.chars c (by simp)).elim hname hsep
        simp [hsep, hrun]

/-- The texts that look like a path are the local paths. -/
theorem isPathLike_iff : isPathLike t = true ↔ IsLocal t := by
  have hstart : ∀ {run}, isRunFrom .start run = true ↔ IsRun run := by simp [isRunFrom_iff]
  unfold isPathLike
  split
  · rename_i letter run
    rw [Bool.and_eq_true, hstart]
    constructor
    · rintro ⟨hletter, hrun⟩
      exact .drive hletter hrun
    · rintro (⟨hletter, hrun⟩ | ⟨hrun⟩)
      · exact ⟨hletter, hrun⟩
      · exact absurd (by simp) (hrun.not_mem (c := ':') rfl rfl)
  · rename_i hdrive
    rw [hstart]
    constructor
    · exact .plain
    · rintro (⟨-, -⟩ | ⟨hrun⟩)
      · exact absurd rfl (hdrive _ _)
      · exact hrun

instance : DecidablePred IsLocal := fun _ => decidable_of_iff _ isPathLike_iff

/-! ### The longest suffix -/

theorem localSuffix?_eq_some_iff : localSuffix? t = some s ↔ IsLongestLocal t s := by
  rw [localSuffix?_eq_some, isPathLike_iff]
  constructor
  · rintro ⟨hlocal, before, rfl, hmax⟩
    refine ⟨List.suffix_append before s, hlocal, fun other hother hlike => ?_⟩
    by_contra hlonger
    obtain ⟨longer, rfl⟩ := List.suffix_of_suffix_length_le (List.suffix_append before s) hother
      (Nat.le_of_not_le hlonger)
    obtain ⟨shorter, hsplit⟩ := hother
    rw [← List.append_assoc, List.append_left_inj] at hsplit
    have hnot := hmax shorter longer hsplit.symm (by rintro rfl; simp at hlonger)
    rw [isPathLike_iff.2 hlike] at hnot
    cases hnot
  · rintro ⟨⟨before, rfl⟩, hlocal, hlongest⟩
    refine ⟨hlocal, before, rfl, fun shorter longer hsplit hne => ?_⟩
    rw [Bool.eq_false_iff]
    intro hlike
    have hle := hlongest (longer ++ s) ⟨shorter, by rw [hsplit, List.append_assoc]⟩
      (isPathLike_iff.1 hlike)
    rw [List.length_append] at hle
    exact hne (List.length_eq_zero_iff.1 (by omega))

theorem localSuffix?_eq_none_iff :
    localSuffix? t = none ↔ ∀ other, other <:+ t → ¬ IsLocal other := by
  simp only [← isPathLike_iff]
  induction t with
  | nil => simp [localSuffix?, isPathLike_nil]
  | cons c rest ih =>
    rw [localSuffix?]
    simp only [List.suffix_cons_iff, forall_eq_or_imp]
    split
    · rename_i hlike
      exact iff_of_false (Option.some_ne_none _) fun h => h.1 hlike
    · rename_i hlike
      rw [ih, and_iff_right hlike]

/-- A text has a suffix that is a local path as soon as it ends in a name. -/
theorem exists_isLocal_iff :
    (∃ other, other <:+ t ∧ IsLocal other) ↔ ∃ c, t.getLast? = some c ∧ isNameChar c = true := by
  constructor
  · rintro ⟨other, ⟨before, rfl⟩, hlocal⟩
    have hends : ∀ {run}, IsRun run → ∃ c, run.getLast? = some c ∧ isNameChar c = true := by
      intro run hrun
      obtain ⟨front, c, rfl⟩ := (List.eq_nil_or_concat' run).resolve_left hrun.ne_nil
      have hsep := hrun.last c List.getLast?_concat
      refine ⟨c, List.getLast?_concat, (hrun.chars c (by simp)).resolve_right ?_⟩
      simp [hsep]
    cases hlocal with
    | drive hletter hrun =>
      obtain ⟨c, hlast, hc⟩ := hends hrun
      exact ⟨c, by simp [List.getLast?_append, List.getLast?_cons, hlast], hc⟩
    | plain hrun =>
      obtain ⟨c, hlast, hc⟩ := hends hrun
      exact ⟨c, by simp [List.getLast?_append, hlast], hc⟩
  · rintro ⟨c, hlast, hc⟩
    obtain ⟨front, rfl⟩ := List.getLast?_eq_some_iff.1 hlast
    exact ⟨[c], List.suffix_append front [c], .plain ((isRun_cons_of_isNameChar hc).2 (.inl rfl))⟩

/-! ### Locations -/

/-- Without a line feed the path of a location is found in the location itself. -/
theorem localPath_of_not_mem (h : '\n' ∉ location) :
    localPath location = (localSuffix? location).getD location := by
  have hlast : ¬ location.getLast? = some '\n' := fun hlast => h (List.mem_of_getLast? hlast)
  simp [localPath, hlast, h]

/-- The locations that are left as they are: paths, and what does not end in a name. -/
theorem localPath_eq_self_iff (h : '\n' ∉ location) :
    localPath location = location ↔
      IsLocal location ∨ ∀ c ∈ location.getLast?, isNameChar c = false := by
  rw [localPath_of_not_mem h]
  cases hfound : localSuffix? location with
  | none =>
    refine iff_of_true rfl (.inr fun c hlast => ?_)
    rw [Bool.eq_false_iff]
    intro hc
    obtain ⟨other, hother, hlocal⟩ := exists_isLocal_iff.2 ⟨c, hlast, hc⟩
    exact localSuffix?_eq_none_iff.1 hfound other hother hlocal
  | some s =>
    have hlongest := localSuffix?_eq_some_iff.1 hfound
    obtain ⟨c, hlast, hc⟩ := exists_isLocal_iff.1 ⟨s, hlongest.suffix, hlongest.isLocal⟩
    rw [Option.getD_some]
    constructor
    · rintro rfl
      exact .inl hlongest.isLocal
    · rintro (hlocal | hnone)
      · exact hlongest.suffix.eq_of_length_le (hlongest.longest _ (List.suffix_refl _) hlocal)
      · rw [hnone c hlast] at hc
        cases hc

/-- A text has one longest suffix of the form. -/
theorem IsLongestLocal.unique (h : IsLongestLocal t s) (hpath : IsLongestLocal t path) :
    path = s :=
  (List.suffix_of_suffix_length_le hpath.suffix h.suffix
    (h.longest path hpath.suffix hpath.isLocal)).eq_of_length_le
      (hpath.longest s h.suffix h.isLocal)

/-- What a location stands for: its longest suffix that is a path, or itself. -/
theorem localPath_eq_iff (h : '\n' ∉ location) :
    localPath location = path ↔ IsLongestLocal location path ∨
      (∀ other, other <:+ location → ¬ IsLocal other) ∧ path = location := by
  rw [localPath_of_not_mem h]
  cases hfound : localSuffix? location with
  | none =>
    have hnone := localSuffix?_eq_none_iff.1 hfound
    rw [Option.getD_none, and_iff_right hnone, eq_comm, iff_or_self]
    intro hlongest
    exact absurd hlongest.isLocal (hnone path hlongest.suffix)
  | some s =>
    have hlongest := localSuffix?_eq_some_iff.1 hfound
    rw [Option.getD_some]
    constructor
    · rintro rfl
      exact .inl hlongest
    · rintro (hpath | ⟨hnone, -⟩)
      · exact hpath.unique hlongest
      · exact absurd hlongest.isLocal (hnone s hlongest.suffix)

/-- **The path of a location is its longest suffix that is a path.** A location without such a
suffix stands for itself, and the path of a path is that path. -/
theorem localPath_longest (h : '\n' ∉ location) :
    (∀ path, localPath location = path ↔ IsLongestLocal location path ∨
      (∀ other, other <:+ location → ¬ IsLocal other) ∧ path = location) ∧
        localPath (localPath location) = localPath location := by
  refine ⟨fun path => localPath_eq_iff h, ?_⟩
  rcases (localPath_eq_iff h).1 rfl with hlongest | ⟨-, hself⟩
  · have hfeed : '\n' ∉ localPath location := fun hmem => h (hlongest.suffix.subset hmem)
    exact (localPath_eq_self_iff hfeed).2 (.inl hlongest.isLocal)
  · rw [hself, hself]

/-- A location with a drive behind a scheme. -/
def drivenLocation : Text := "webpack:///D:/app/./x.js".toList

theorem localPath_longest_drive :
    '\n' ∉ drivenLocation ∧ IsLongestLocal drivenLocation "D:/app/./x.js".toList ∧
      localPath (localPath drivenLocation) = "D:/app/./x.js".toList := by
  have hfeed : '\n' ∉ drivenLocation := by decide
  have hpath : localPath drivenLocation = "D:/app/./x.js".toList := by decide
  obtain ⟨hiff, hagain⟩ := localPath_longest hfeed
  refine ⟨hfeed, ((hiff _).1 hpath).resolve_right ?_, hagain.trans hpath⟩
  rintro ⟨-, hself⟩
  exact absurd hself (by decide)

example : localPath "file:///srv/my app//src/x.js".toList = "/src/x.js".toList := by decide

end Retrace

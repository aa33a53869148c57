import Retrace.Proofs.SourceMap.Locate
import Retrace.Proofs.Url

/-!
# Served source maps

A source map that is served can be referred to by its path from the root, or by its whole URL. The
path of a URL is decoded where it is put below the root; a path that stands alone is decoded once
before that. So the two lead to one file unless a second decoding leads elsewhere; what leads
where is for the disk to say.

* `SourceMap.Agree`: references that lead to one file, or both out of the root;
* `SourceMap.Meet`, `SourceMap.SamePlace`: paths that lead to one place, on any disk and without
  links;
* `referencePathBy_rooted`, `referencePathBy_web`: what the two come to below the root.

Main statement: `referencePath_agree_iff`.
-/

namespace Retrace.SourceMap

/-- Whether what two references come to is one file, or leads out of the root both times. -/
inductive Agree : Except Failure Path → Except Failure Path → Prop
  | file (path : Path) : Agree (.ok path) (.ok path)
  | outside (first second : Text) : Agree (.error (.outside first)) (.error (.outside second))

/-- Whether two paths lead to one place from what a root leads to, or both out of it, by a way of
resolving paths. -/
def Meet (resolve : Path → Except LinkFault Path) (root first second : Path) : Prop :=
  ∃ base firstPlace secondPlace, resolve root = .ok base ∧
    resolve (base.join first) = .ok firstPlace ∧ resolve (base.join second) = .ok secondPlace ∧
      (firstPlace = secondPlace ∨
        base.isUnder firstPlace = false ∧ base.isUnder secondPlace = false)

/-- Whether two paths lead to one place from a directory, or both out of it, without links. -/
def SamePlace (directory first second : Path) : Prop :=
  directory.below first = directory.below second ∨
    directory.place.isUnder (directory.below first) = false ∧
      directory.place.isUnder (directory.below second) = false

variable {resolve : Path → Except LinkFault Path} {host p : Text}

/-! ### The two ways -/

/-- A path that stands alone is decoded before it is put below the root. -/
theorem referencePathBy_rooted (h : Url.IsRootedPath p) (bundle base : Path) :
    referencePathBy resolve p bundle (some base) = fileUnderBy resolve base (Percent.text p) := by
  obtain ⟨rest, rfl⟩ := List.head?_eq_some_iff.1 h.slash
  have hweb : ¬ Url.isWeb ⟨[], [], '/' :: rest⟩ = true := nofun
  rw [referencePathBy, if_neg (by simp), splitUrl_eq_ok.2 (Url.split_rooted h), ok_bind,
    if_neg hweb]
  have hhead : (Percent.text ('/' :: rest)).head? = some '/' := by
    rw [Percent.text_slash]
    rfl
  exact if_pos hhead

/-- A path behind a host is put below the root as it is. -/
theorem referencePathBy_web (hhost : ∀ c ∈ host, Url.isHostChar c = true) (h : Url.IsRootedPath p)
    (bundle : Path) (root : Option Path) :
    referencePathBy resolve ("http://".toList ++ (host ++ p)) bundle root =
      match root with
      | none => .error (.undecodable (.nowhereServed ("http://".toList ++ (host ++ p))))
      | some base => fileUnderBy resolve base p := by
  have hweb : Url.isWeb ⟨"http".toList, host, p⟩ = true := rfl
  rw [referencePathBy, if_neg (by simp), splitUrl_eq_ok.2 (Url.split_web hhost h), ok_bind]
  refine (if_pos hweb).trans ?_
  cases root <;> rfl

/-! ### When they agree -/

theorem Agree.caught {first second : Except Failure Path} (h : Agree first second) :
    Caught first ∧ Caught second := by
  cases h with
  | file path => exact ⟨caught_ok path, caught_ok path⟩
  | outside first second => exact ⟨caught_error.2 rfl, caught_error.2 rfl⟩

theorem Agree.eq_of_ok {first second : Path} (h : Agree (.ok first) (.ok second)) :
    first = second := by
  cases h
  rfl

/-- What is not refused for a fault comes from a root and a path that are both resolved. -/
theorem resolved_of_caught_fileUnderBy {root : Path} {urlPath : Text}
    (h : Caught (fileUnderBy resolve root urlPath)) :
    ∃ base place, resolve root = .ok base ∧
      resolve (base.join (relativeOf urlPath)) = .ok place := by
  rw [caught_fileUnderBy_iff] at h
  cases hbase : resolve root with
  | error fault => exact absurd (joinUnderBy_of_unresolved_root hbase) (h fault)
  | ok base =>
    cases hplace : resolve (base.join (relativeOf urlPath)) with
    | error fault => exact absurd (joinUnderBy_of_unresolved hbase hplace) (h fault)
    | ok place => exact ⟨base, place, rfl, hplace⟩

theorem fileUnderBy_of_resolve {root base place : Path} {urlPath : Text}
    (hbase : resolve root = .ok base)
    (hplace : resolve (base.join (relativeOf urlPath)) = .ok place) :
    fileUnderBy resolve root urlPath =
      if base.isUnder place then .ok place else .error (.outside urlPath) := by
  rw [fileUnderBy, joinUnderBy_of_resolve hbase hplace]
  split <;> rfl

/-- What two paths come to below a root agrees if neither is refused for a fault and they lead to
one place. -/
theorem agree_fileUnderBy_iff (root : Path) (first second : Text) :
    Agree (fileUnderBy resolve root first) (fileUnderBy resolve root second) ↔
      Meet resolve root (relativeOf first) (relativeOf second) := by
  constructor
  · intro h
    obtain ⟨base, firstPlace, hbase, hfirst⟩ := resolved_of_caught_fileUnderBy h.caught.1
    obtain ⟨other, secondPlace, hother, hsecond⟩ := resolved_of_caught_fileUnderBy h.caught.2
    obtain rfl : base = other := Except.ok.inj (hbase.symm.trans hother)
    refine ⟨base, firstPlace, secondPlace, hbase, hfirst, hsecond, ?_⟩
    rw [fileUnderBy_of_resolve hbase hfirst, fileUnderBy_of_resolve hbase hsecond] at h
    split at h
    · split at h
      · exact .inl h.eq_of_ok
      · cases h
    · split at h
      · cases h
      · right
        constructor <;> rwa [← Bool.not_eq_true]
  · rintro ⟨base, firstPlace, secondPlace, hbase, hfirst, hsecond, hplace⟩
    rw [fileUnderBy_of_resolve hbase hfirst, fileUnderBy_of_resolve hbase hsecond]
    rcases hplace with rfl | ⟨hfirst, hsecond⟩
    · split
      · exact .file _
      · exact .outside _ _
    · rw [if_neg (by simp [hfirst]), if_neg (by simp [hsecond])]
      exact .outside _ _

/-- Without links two paths meet if no NUL is in the way and they lead to one place. -/
theorem meet_resolve_iff (root first second : Path) :
    Meet Path.resolve root first second ↔
      root.hasNul = false ∧ first.hasNul = false ∧ second.hasNul = false ∧
        SamePlace root first second := by
  have hjoin : ∀ {relative : Path}, root.hasNul = false →
      ((root.place.join relative).hasNul = false ↔ relative.hasNul = false) := by
    intro relative hroot
    have hplace := (Path.resolve_eq_ok (Path.resolve_eq_place hroot)).2.2
    rw [← Bool.not_eq_true, Path.hasNul_join, hplace, ← Bool.not_eq_true]
    simp
  have hmeet : ∀ {relative : Path} {file}, (root.place.join relative).resolve = .ok file →
      root.hasNul = false → relative.hasNul = false ∧ file = root.below relative := by
    intro relative file hfile hroot
    obtain ⟨hnul, rfl, -⟩ := Path.resolve_eq_ok hfile
    exact ⟨(hjoin hroot).1 hnul, rfl⟩
  constructor
  · rintro ⟨base, firstPlace, secondPlace, hbase, hfirst, hsecond, hplace⟩
    obtain ⟨hroot, rfl, -⟩ := Path.resolve_eq_ok hbase
    obtain ⟨hfirstNul, rfl⟩ := hmeet hfirst hroot
    obtain ⟨hsecondNul, rfl⟩ := hmeet hsecond hroot
    exact ⟨hroot, hfirstNul, hsecondNul, hplace⟩
  · rintro ⟨hroot, hfirst, hsecond, hplace⟩
    exact ⟨root.place, _, _, Path.resolve_eq_place hroot,
      Path.resolve_eq_place ((hjoin hroot).2 hfirst),
      Path.resolve_eq_place ((hjoin hroot).2 hsecond), hplace⟩

/-- Whether a path and its URL agree is whether the path decoded twice meets the path decoded
once. -/
theorem agree_referencePathBy_iff (resolve : Path → Except LinkFault Path)
    (hhost : ∀ c ∈ host, Url.isHostChar c = true) (h : Url.IsRootedPath p) (bundle : Path)
    (root : Option Path) :
    Agree (referencePathBy resolve p bundle root)
        (referencePathBy resolve ("http://".toList ++ (host ++ p)) bundle root) ↔
      ∃ base, root = some base ∧
        Meet resolve base (relativeOf (Percent.text p)) (relativeOf p) := by
  cases root with
  | none =>
    refine iff_of_false ?_ (by simp)
    rw [referencePathBy_web hhost h]
    intro hagree
    generalize referencePathBy resolve p bundle none = alone at hagree
    cases hagree
  | some base =>
    rw [referencePathBy_web hhost h, referencePathBy_rooted h, agree_fileUnderBy_iff]
    simp only [Option.some.injEq, exists_eq_left']

theorem relativeOf_of_not_mem (h : '%' ∉ Percent.text p) :
    relativeOf (Percent.text p) = relativeOf p := by
  rw [relativeOf, Percent.text_of_not_mem h, relativeOf]

/-- A path that is decoded as far as it goes meets itself, if it is resolved at all. -/
theorem meet_of_not_mem {base place root : Path} (hbase : resolve root = .ok base)
    (hplace : resolve (base.join (relativeOf p)) = .ok place) (h : '%' ∉ Percent.text p) :
    Meet resolve root (relativeOf (Percent.text p)) (relativeOf p) := by
  rw [relativeOf_of_not_mem h]
  exact ⟨base, place, place, hbase, hplace, hplace, .inl rfl⟩

/-- **A second decoding decides whether two references agree.** On any disk a path that starts with
one slash and the URL of the same path on any host of the web lead to one file, or both out of the
root, exactly if files are served from a root and the path decoded once and decoded twice leads from
it to one place. So they agree if the decoded path has no percent sign left and is resolved at all.
Without links, to be resolved is to have no NUL. -/
theorem referencePath_agree_iff (hhost : ∀ c ∈ host, Url.isHostChar c = true)
    (h : Url.IsRootedPath p) (bundle : Path) (root : Option Path) :
    (∀ resolve,
      (Agree (referencePathBy resolve p bundle root)
          (referencePathBy resolve ("http://".toList ++ (host ++ p)) bundle root) ↔
        ∃ base, root = some base ∧
          Meet resolve base (relativeOf (Percent.text p)) (relativeOf p)) ∧
        ∀ base top place, root = some base → resolve base = .ok top →
          resolve (top.join (relativeOf p)) = .ok place → '%' ∉ Percent.text p →
            Agree (referencePathBy resolve p bundle root)
              (referencePathBy resolve ("http://".toList ++ (host ++ p)) bundle root)) ∧
    (Agree (referencePath p bundle root)
        (referencePath ("http://".toList ++ (host ++ p)) bundle root) ↔
      ∃ base, root = some base ∧ base.hasNul = false ∧
        (relativeOf (Percent.text p)).hasNul = false ∧ (relativeOf p).hasNul = false ∧
          SamePlace base (relativeOf (Percent.text p)) (relativeOf p)) ∧
      ∀ base, root = some base → base.hasNul = false → (relativeOf p).hasNul = false →
        '%' ∉ Percent.text p →
          Agree (referencePath p bundle root)
            (referencePath ("http://".toList ++ (host ++ p)) bundle root) := by
  refine ⟨fun resolve => ⟨agree_referencePathBy_iff resolve hhost h bundle root, ?_⟩, ?_, ?_⟩
  · intro base top place hroot hbase hplace hplain
    exact (agree_referencePathBy_iff resolve hhost h bundle root).2
      ⟨base, hroot, meet_of_not_mem hbase hplace hplain⟩
  · rw [referencePath, referencePath, agree_referencePathBy_iff _ hhost h]
    simp only [meet_resolve_iff]
  · intro base hroot hbase hpath hplain
    refine (agree_referencePathBy_iff _ hhost h bundle root).2 ⟨base, hroot, ?_⟩
    rw [meet_resolve_iff, relativeOf_of_not_mem hplain]
    exact ⟨hbase, hpath, hpath, .inl rfl⟩

theorem referencePath_agree_iff_space :
    (∀ c ∈ "localhost:3000".toList, Url.isHostChar c = true) ∧
      Url.IsRootedPath "/maps/../a%20b.map".toList ∧
        Agree (referencePath "/maps/../a%20b.map".toList ⟨.slash, ["b.js".toList]⟩
            (some ⟨.slash, ["srv".toList]⟩))
          (referencePath
            ("http://".toList ++ ("localhost:3000".toList ++ "/maps/../a%20b.map".toList))
            ⟨.slash, ["b.js".toList]⟩ (some ⟨.slash, ["srv".toList]⟩)) := by
  have hhost : ∀ c ∈ "localhost:3000".toList, Url.isHostChar c = true :=
    List.all_eq_true.1 (by decide)
  have hpath : Url.IsRootedPath "/maps/../a%20b.map".toList :=
    ⟨by decide, by rintro rest ⟨⟩, by simp, by decide, by decide⟩
  have hdecoded : Percent.text "/maps/../a%20b.map".toList = "/maps/../a b.map".toList := by cbv
  refine ⟨hhost, hpath, (referencePath_agree_iff hhost hpath _ _).2.2 _ rfl (by decide) (by cbv) ?_⟩
  rw [hdecoded]
  decide

/-- A file name with a percent sign that is encoded, below the root `/srv`. -/
theorem referencePath_percent_sign :
    (∀ c ∈ "h".toList, Url.isHostChar c = true) ∧ Url.IsRootedPath "/a%2520b.map".toList ∧
      referencePath "/a%2520b.map".toList ⟨.slash, ["b.js".toList]⟩
          (some ⟨.slash, ["srv".toList]⟩) =
        .ok ⟨.slash, ["srv".toList, "a b.map".toList]⟩ ∧
      referencePath ("http://".toList ++ ("h".toList ++ "/a%2520b.map".toList))
          ⟨.slash, ["b.js".toList]⟩ (some ⟨.slash, ["srv".toList]⟩) =
        .ok ⟨.slash, ["srv".toList, "a%20b.map".toList]⟩ := by
  refine ⟨List.all_eq_true.1 (by decide),
    ⟨by decide, by rintro rest ⟨⟩, by simp, by decide, by decide⟩, ?_, ?_⟩
  · cbv
  · cbv

end Retrace.SourceMap

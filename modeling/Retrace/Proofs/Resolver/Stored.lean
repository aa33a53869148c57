import Retrace.Proofs.Path.Local
import Retrace.Proofs.Resolver.Window
import Retrace.Proofs.Url

/-!
# Locations that are looked up as they are

A location that starts with a slash has no scheme, so it is local. It is looked up as it is if it is
a run of names and separators to its end, or does not end in a name at all; any other character in
front of its last name cuts it off there, and what is left may be another file.

* `Url.split_of_isRun`: a run that starts with a slash is a URL;
* `Target.ofRaw_of_slash`: the target of a location that starts with a slash.

Main statement: `Resolver.ofRaw_eq_stored_iff`.
-/

namespace Retrace

variable {t : Text} {disk : Disk} {settings : Settings} {raw : RawFrame}

/-! ### Slashes in front -/

theorem Url.schemeOf_clean_of_slash (h : t.head? = some '/') : schemeOf (clean t) = none := by
  refine schemeOf_of_slash ?_
  obtain ⟨rest, rfl⟩ := List.head?_eq_some_iff.1 h
  rfl

/-- A text that starts with a slash has no scheme. -/
theorem Url.scheme_of_slash {url : Url} (hslash : t.head? = some '/') (h : split t = .ok url) :
    url.scheme = [] := by
  rw [split, schemeOf_clean_of_slash hslash] at h
  dsimp only [Option.getD_none] at h
  split at h
  · cases h
  · split at h
    · cases h
    · cases h
      rfl

theorem isNameChar_of_le {c : Char} (h : c.toNat ≤ 0x20) :
    isNameChar c = false ∧ isSeparator c = false := by
  have hall : ∀ n ≤ 0x20, isNameChar (.ofNat n) = false ∧ isSeparator (.ofNat n) = false := by
    decide
  have := hall c.toNat h
  rwa [Char.ofNat_toNat] at this

/-- A run that starts with a slash starts with one only, and nothing in it ends the path of a
URL. -/
theorem Url.split_of_isRun (hslash : t.head? = some '/') (h : IsRun t) :
    split t = .ok ⟨[], [], t⟩ := by
  refine split_rooted ⟨hslash, ?_, fun c hc => ?_, h.not_mem rfl rfl, h.not_mem rfl rfl⟩
  · rintro rest rfl
    cases (List.isChain_cons_cons.1 h.apart).1 rfl
  · by_contra hle
    obtain ⟨hname, hsep⟩ := isNameChar_of_le (Nat.le_of_not_lt hle)
    exact h.not_mem hname hsep hc

/-- A path that is written with a slash in front stands for itself, wherever it is taken from. -/
theorem Path.join_ofText_of_slash (root : Path) (h : t.head? = some '/') :
    root.join (.ofText t) = .ofText t := by
  have hroot : (Path.ofText t).root ≠ .none := by
    obtain ⟨rest, rfl⟩ := List.head?_eq_some_iff.1 h
    show rootOf ('/' :: rest) ≠ .none
    unfold rootOf
    split <;> simp_all
  unfold join
  split
  · exact absurd ‹_› hroot
  · rfl

/-! ### Targets -/

/-- The target of a location that starts with a slash is the path that is found in it. -/
theorem Target.ofRaw_of_slash {target : Target} (hslash : raw.file.head? = some '/')
    (hline : raw.line ≠ none) :
    ofRaw settings raw = .ok target ↔ (∃ url, Url.split raw.file = .ok url) ∧
      ∃ root, settings.workingRoot = .ok root ∧
        target = .stored (root.join (.ofText (localPath raw.file))) (localPath raw.file) := by
  have hfile : raw.file ≠ [] := by
    intro hnil
    rw [hnil] at hslash
    cases hslash
  rw [ofRaw, ofRawBy, if_neg (by simp [hfile, hline]), ofLocationBy, bind_eq_ok, ← exists_and_right]
  refine exists_congr fun url => ?_
  rw [SourceMap.splitUrl_eq_ok]
  refine and_congr_right fun hurl => ?_
  have hweb : ¬ url.isWeb = true := by
    rw [Url.isWeb, Url.scheme_of_slash hslash hurl]
    decide
  rw [if_neg hweb, bind_eq_ok]
  simp only [mapError_eq_ok, Except.ok.injEq, eq_comm (b := target), Settings.workingRoot]

/-- Such a location is looked up as it is if the path that is found in it is the location. -/
theorem Target.ofRaw_eq_stored_iff_of_slash (hslash : raw.file.head? = some '/')
    (hline : raw.line ≠ none) :
    ofRaw settings raw = .ok (.stored (.ofText raw.file) raw.file) ↔
      settings.paths.workingDir.hasNul = false ∧ localPath raw.file = raw.file ∧
        ∃ url, Url.split raw.file = .ok url := by
  rw [ofRaw_of_slash hslash hline]
  constructor
  · rintro ⟨hurl, root, hroot, htarget⟩
    obtain ⟨-, hself⟩ := Target.stored.inj htarget
    exact ⟨(Path.resolve_eq_ok hroot).1, hself.symm, hurl⟩
  · rintro ⟨hnul, hself, hurl⟩
    refine ⟨hurl, _, Path.resolve_eq_place hnul, ?_⟩
    rw [hself, Path.join_ofText_of_slash _ hslash]

theorem isLocal_iff_of_slash (h : t.head? = some '/') : IsLocal t ↔ IsRun t := by
  constructor
  · rintro (⟨hletter, -⟩ | ⟨hrun⟩)
    · obtain rfl : _ = '/' := Option.some.inj h
      cases hletter
    · exact hrun
  · exact .plain

namespace Resolver

variable {w : Workplace}

/-- **When a location that starts with a slash is looked up as it is.** It has to be a run of names
and separators, or not to end in a name and to be a URL, and the working directory must have no NUL.
Then, whatever a resolver did before, a raw frame there shows the lines of the file at the location
if that is there and refers to no source map. -/
theorem ofRaw_eq_stored_iff (hslash : raw.file.head? = some '/') (hfeed : '\n' ∉ raw.file)
    {line : Int} (hline : raw.line = some line) (settings : Settings) :
    (Target.ofRaw settings raw = .ok (.stored (.ofText raw.file) raw.file) ↔
      settings.paths.workingDir.hasNul = false ∧
        (IsRun raw.file ∨ (∀ c ∈ raw.file.getLast?, isNameChar c = false) ∧
          ∃ url, Url.split raw.file = .ok url)) ∧
    (Target.ofRaw settings raw = .ok (.stored (.ofText raw.file) raw.file) →
      ∀ (disk : Disk) (w : Workplace) (resolver : Resolver) (text : Text), w.Reached disk →
        resolver.settings = settings → disk.HasText (.ofText raw.file) text →
          lastReference? text = none →
            (resolver.act w fun s => (resolveFrame settings raw).runAlone disk s).2 =
              .ok (snippetFrame settings raw raw.file text line raw.column)) := by
  constructor
  · rw [Target.ofRaw_eq_stored_iff_of_slash hslash (by simp [hline]), localPath_eq_self_iff hfeed,
      isLocal_iff_of_slash hslash]
    refine and_congr_right fun _ => ?_
    constructor
    · rintro ⟨hrun | hends, hurl⟩
      · exact .inl hrun
      · exact .inr ⟨hends, hurl⟩
    · rintro (hrun | ⟨hends, hurl⟩)
      · exact ⟨.inl hrun, _, Url.split_of_isRun hslash hrun⟩
      · exact ⟨.inr hends, hurl⟩
  · rintro htarget disk w resolver text hw rfl htext hreference
    have hopened : Opened resolver.settings disk raw _ (.ofText raw.file) text :=
      ⟨htarget, rfl, result_fetchingText_eq_some.2 htext⟩
    have hmap : (SourceMap.locate text (.ofText raw.file) none).result disk = .ok none := by
      rw [SourceMap.result_locate, hreference]
    have hcache := Workplace.faithful_cacheAt hw.faithful resolver.cache
    exact (Script.runAlone_faithful (s := w.desk resolver.cache) hcache _).1.trans
      (RawFrame.Finds.own hopened hline hmap).result_eq

/-- A path that goes up and down again is looked up as it is written. -/
theorem ofRaw_eq_stored_iff_parent :
    lastLine.file.head? = some '/' ∧ '\n' ∉ lastLine.file ∧ lastLine.line = some 2 ∧
      Target.ofRaw narrow lastLine =
        .ok (.stored ⟨.slash, ["x".toList, "..".toList, "a.js".toList]⟩ lastLine.file) ∧
      ((⟨narrow, 0⟩ : Resolver).act usedWorkplace fun s =>
        (resolveFrame narrow lastLine).runAlone oneFile s).2 =
          .ok ⟨"f".toList, "/x/../a.js".toList, some 2, none, "two".toList, some 1, some 2,
            false⟩ := by
  have hreached : usedWorkplace.Reached oneFile := .act (.hire .empty .default none) _ _
  have hrun : IsRun lastLine.file := (isLocal_iff_of_slash rfl).1 (by decide)
  have hslash : lastLine.file.head? = some '/' := rfl
  obtain ⟨hiff, hshown⟩ := ofRaw_eq_stored_iff hslash (by decide) rfl narrow
  have htarget := hiff.2 ⟨rfl, .inl hrun⟩
  have htext : oneFile.HasText (.ofText lastLine.file) "one\ntwo".toList :=
    ⟨Utf8.encode "one\ntwo".toList, rfl, by cbv⟩
  refine ⟨rfl, by decide, rfl, htarget, ?_⟩
  exact (hshown htarget oneFile usedWorkplace ⟨narrow, 0⟩ _ hreached rfl htext (by cbv)).trans
    (by cbv)

/-- A disk with a file in a directory that has a blank in its name, and another file at what follows
the blank. -/
def decoyed : Disk :=
  (Disk.empty.put ⟨.slash, ["app".toList, "my dir".toList, "x.js".toList]⟩
    (.file (Utf8.encode "right".toList))).put ⟨.slash, ["dir".toList, "x.js".toList]⟩
      (.file (Utf8.encode "wrong".toList))

/-- A frame in the directory with the blank. -/
def blankInName : RawFrame :=
  ⟨"f".toList, "/app/my dir/x.js".toList, some 1, some 1, false⟩

/-- A blank in a name cuts the location off, and the frame shows the other file. -/
theorem ofRaw_blank_in_name :
    decoyed.HasText (.ofText blankInName.file) "right".toList ∧
      Target.ofRaw .default blankInName =
        .ok (.stored ⟨.slash, ["dir".toList, "x.js".toList]⟩ "dir/x.js".toList) ∧
      (resolveFrame .default blankInName).result decoyed =
        .ok ⟨"f".toList, "dir/x.js".toList, some 1, some 1, "wrong".toList, some 0, some 1,
          false⟩ := by
  refine ⟨⟨Utf8.encode "right".toList, rfl, ?_⟩, ?_, ?_⟩ <;> cbv

end Resolver

end Retrace

import Retrace.Proofs.Resolver.Candid
import Retrace.Proofs.Resolver.Window

/-!
# Files that refuse

A raw frame leads to up to three files, one after another: the file of its location, the file of the
source map that this refers to, and the file of the source that the map leads to. One that is not
there only ends the way, and there is a frame to fall back to. One that is there but refuses to be
looked at or to be read is a failure of the whole frame, which nothing on the way covers up.

* `RawFrame.Visits`: the files that a raw frame gets to, each with the frame to fall back to;
* `mem_asked_resolveFrame`: these are the files that are asked for;
* `Visits.result_eq`: what becomes of a raw frame if one of them is not there.

Main statement: `runAlone_resolveFrame_refused`.
-/

namespace Retrace

variable {disk : Disk} {settings : Settings} {raw : RawFrame} {bundle file : Path}
  {root : Option Path} {map : SourceMap}

/-! ### The files that a raw frame gets to -/

/-- The files that a raw frame gets to, each with the frame to fall back to if it is not there. -/
inductive RawFrame.Visits (settings : Settings) (disk : Disk) (raw : RawFrame) :
    Path → Frame → Prop
  /-- The file of the location; without it the location is all there is to show. -/
  | own {target : Target} {file : Path} (htarget : Target.ofRaw settings raw = .ok target)
      (hfile : target.file? = some file) :
      Visits settings disk raw file.absolute (Frame.unresolved raw)
  /-- The file of the map that the last reference leads to; without it the file of the location is
  shown. -/
  | map {target : Target} {file path : Path} {text reference : Text} {line : Int}
      (hopened : Opened settings disk raw target file text) (hline : raw.line = some line)
      (hlast : lastReference? text = some reference)
      (hexternal : SourceMap.isInline reference = false)
      (hpath : referencePath reference file target.root? = .ok path) :
      Visits settings disk raw path.absolute
        (snippetFrame settings raw (target.shownFile raw) text line raw.column)
  /-- The file of the source, where the map carries no text for it; without it only the place is
  shown. -/
  | source {target : Target} {file path : Path} {text : Text} {map : SourceMap}
      {place : SourcePlace} (hopened : Opened settings disk raw target file text)
      (hmap : SourceMap.Referenced disk file target.root? text map)
      (hplace : map.find? (fromZero raw.line) (fromZero raw.column) = .ok (some place))
      (hcontent : map.contentFor place.sourceIndex = none)
      (hpath : sourceFile? file place.source = .ok (some path)) :
      Visits settings disk raw path.absolute
        (bareFrame raw place.source (place.line + 1) (place.column + 1))

section Asked

open Script

variable {path : Path}

theorem mem_asked_fetchingText :
    path ∈ (fetchingText file).asked disk ↔ path = file.absolute := by
  rw [fetchingText, mem_asked_bind]
  simp

theorem mem_asked_sourceText {place : SourcePlace} :
    path ∈ (sourceText bundle map place).asked disk ↔
      map.contentFor place.sourceIndex = none ∧
        ∃ file, sourceFile? bundle place.source = .ok (some file) ∧ path = file.absolute := by
  rw [sourceText]
  cases hcontent : map.contentFor place.sourceIndex with
  | some content => simp
  | none =>
    dsimp only
    rw [mem_asked_bind]
    simp only [asked_ofExcept, result_ofExcept, List.not_mem_nil, false_or, true_and]
    constructor
    · rintro ⟨path?, hpath, h⟩
      cases path? with
      | none => cases h
      | some file => exact ⟨file, hpath, mem_asked_fetchingText.1 h⟩
    · rintro ⟨file, hpath, h⟩
      exact ⟨some file, hpath, mem_asked_fetchingText.2 h⟩

theorem mem_asked_resolveMapped :
    path ∈ (resolveMapped settings raw bundle map).asked disk ↔
      ∃ place file, map.find? (fromZero raw.line) (fromZero raw.column) = .ok (some place) ∧
        map.contentFor place.sourceIndex = none ∧
        sourceFile? bundle place.source = .ok (some file) ∧ path = file.absolute := by
  rw [resolveMapped, mem_asked_bind]
  simp only [asked_ofExcept, result_ofExcept, List.not_mem_nil, false_or, mapError_eq_ok]
  constructor
  · rintro ⟨place?, hplace, h⟩
    cases place? with
    | none => simp [mem_asked_bind] at h
    | some place =>
      rcases mem_asked_bind.1 h with h | ⟨text?, -, h⟩
      · obtain ⟨hcontent, file, hpath, rfl⟩ := mem_asked_sourceText.1 h
        exact ⟨place, file, hplace, hcontent, hpath, rfl⟩
      · cases text? <;> simp [mem_asked_bind] at h
  · rintro ⟨place, file, hplace, hcontent, hpath, rfl⟩
    exact ⟨some place, hplace,
      mem_asked_bind.2 (.inl (mem_asked_sourceText.2 ⟨hcontent, file, hpath, rfl⟩))⟩

theorem mem_asked_resolveFile {line : Int} (hline : raw.line = some line) {kind : TargetKind}
    {shown : Text} :
    path ∈ (resolveFile settings raw kind file shown root).asked disk ↔
      path = file.absolute ∨ ∃ text, (fetchingText file).result disk = .ok (some text) ∧
        (path ∈ (SourceMap.locate text file root).asked disk ∨
          ∃ map, (SourceMap.locate text file root).result disk = .ok (some map) ∧
            path ∈ (resolveMapped settings raw file map).asked disk) := by
  rw [resolveFile, mem_asked_bind, mem_asked_fetchingText, hline]
  refine or_congr_right ?_
  constructor
  · rintro ⟨text?, htext, h⟩
    cases text? with
    | none => simp [unresolved, mem_asked_bind] at h
    | some text =>
      refine ⟨text, htext, (mem_asked_bind.1 h).imp_right ?_⟩
      rintro ⟨map?, hmap, h⟩
      cases map? with
      | none =>
        rcases mem_asked_bind.1 h with h | ⟨mapped, -, h⟩ <;> cases h
      | some map =>
        rcases mem_asked_bind.1 h with h | ⟨mapped, -, h⟩
        · exact ⟨map, hmap, h⟩
        · cases h
  · rintro ⟨text, htext, h⟩
    refine ⟨some text, htext, mem_asked_bind.2 (h.imp_right ?_)⟩
    rintro ⟨map, hmap, h⟩
    exact ⟨some map, hmap, mem_asked_bind.2 (.inl h)⟩

/-- A raw frame asks for files where the file of its target does. -/
theorem mem_asked_resolveFrame_iff :
    path ∈ (resolveFrame settings raw).asked disk ↔
      ∃ target file, Target.ofRaw settings raw = .ok target ∧ target.file? = some file ∧
        path ∈ (resolveFile settings raw target.kind file (target.shownFile raw)
          target.root?).asked disk := by
  rw [resolveFrame, mem_asked_bind]
  simp only [asked_ofExcept, result_ofExcept, List.not_mem_nil, false_or]
  refine exists_congr fun target => ?_
  rw [mem_asked_bind]
  cases target <;>
    simp [Target.file?, Target.kind, Target.shownFile, Target.root?, unresolved, mem_asked_bind]

/-- The files that are asked for are the ones that the raw frame gets to. -/
theorem mem_asked_resolveFrame :
    path ∈ (resolveFrame settings raw).asked disk ↔
      ∃ fallback, raw.Visits settings disk path fallback := by
  rw [mem_asked_resolveFrame_iff]
  constructor
  · rintro ⟨target, file, htarget, hfile, h⟩
    obtain ⟨line, hline⟩ := Target.line_of_file? htarget hfile
    rcases (mem_asked_resolveFile hline).1 h with rfl | ⟨text, htext, h | ⟨map, hmap, h⟩⟩
    · exact ⟨_, .own htarget hfile⟩
    · obtain ⟨reference, path, hlast, hexternal, hpath, rfl⟩ := SourceMap.mem_asked_locate.1 h
      exact ⟨_, .map ⟨htarget, hfile, htext⟩ hline hlast hexternal hpath⟩
    · obtain ⟨place, path, hplace, hcontent, hpath, rfl⟩ := mem_asked_resolveMapped.1 h
      exact ⟨_, .source ⟨htarget, hfile, htext⟩ (SourceMap.result_locate_eq_some.1 hmap) hplace
        hcontent hpath⟩
  · rintro ⟨fallback, hvisits⟩
    cases hvisits with
    | @own target file htarget hfile =>
      obtain ⟨line, hline⟩ := Target.line_of_file? htarget hfile
      exact ⟨target, file, htarget, hfile, (mem_asked_resolveFile hline).2 (.inl rfl)⟩
    | @map target file path text reference line hopened hline hlast hexternal hpath =>
      refine ⟨target, file, hopened.ofRaw_eq, hopened.file?_eq, (mem_asked_resolveFile hline).2 ?_⟩
      exact .inr ⟨text, hopened.result_eq, .inl (SourceMap.mem_asked_locate.2
        ⟨reference, path, hlast, hexternal, hpath, rfl⟩)⟩
    | @source target file path text map place hopened hmap hplace hcontent hpath =>
      obtain ⟨line, hline⟩ := Target.line_of_file? hopened.ofRaw_eq hopened.file?_eq
      refine ⟨target, file, hopened.ofRaw_eq, hopened.file?_eq, (mem_asked_resolveFile hline).2 ?_⟩
      exact .inr ⟨text, hopened.result_eq, .inr ⟨map, SourceMap.result_locate_eq_some.2 hmap,
        mem_asked_resolveMapped.2 ⟨place, path, hplace, hcontent, hpath, rfl⟩⟩⟩

end Asked

/-! ### Frames to fall back to -/

/-- A file that a raw frame gets to and that is not there leads to the frame to fall back to. -/
theorem RawFrame.Visits.result_eq {path : Path} {fallback : Frame}
    (h : raw.Visits settings disk path fallback) (hmissing : disk.Missing path) :
    (resolveFrame settings raw).result disk = .ok fallback := by
  have hread := hmissing.read_eq
  cases h with
  | own htarget hfile => exact (Finds.absent htarget hfile hread).result_eq
  | map hopened hline hlast hexternal hpath =>
    refine (Finds.own hopened hline ?_).result_eq
    rw [SourceMap.result_locate, hlast]
    dsimp only
    rw [SourceMap.follow, hexternal, if_neg Bool.false_ne_true, SourceMap.result_load, hpath,
      ok_bind, Disk.fetched_eq_none.2 hread]
    rfl
  | source hopened hmap hplace hcontent hpath =>
    exact (Finds.mapped hopened (SourceMap.result_locate_eq_some.2 hmap) hplace
      (.absent hcontent hpath hread)).result_eq

/-- **A file that refuses is never covered up, and one that is not there is no failure.** A raw
frame ends with a refusal exactly if a file that it gets to refuses, and the refusal names the file,
the access and the error number. However it ends, the cache has what it had before and the files
that were got to and could be read. A file that is not there leads to the frame to fall back to. -/
theorem runAlone_resolveFrame_refused {s : Shared}
    (h : ∀ path fallback, raw.Visits settings disk path fallback →
      ∀ bytes, s.cache.find? path = some bytes → disk.read path = .content bytes) :
    (∀ access path errno, ((resolveFrame settings raw).runAlone disk s).2 =
        .error (.unreadable access path errno) ↔
      (∃ fallback, raw.Visits settings disk path fallback) ∧ disk.Refuses path access errno) ∧
    (∀ path bytes,
      ((resolveFrame settings raw).runAlone disk s).1.cache.find? path = some bytes ↔
        s.cache.find? path = some bytes ∨
          (∃ fallback, raw.Visits settings disk path fallback) ∧
            disk.read path = .content bytes) ∧
    ∀ path fallback, raw.Visits settings disk path fallback → disk.Missing path →
      ((resolveFrame settings raw).runAlone disk s).2 = .ok fallback := by
  have hfaithful : s.cache.FaithfulAt disk ((resolveFrame settings raw).asked disk) := by
    intro path hasked
    obtain ⟨fallback, hvisits⟩ := mem_asked_resolveFrame.1 hasked
    exact h path fallback hvisits
  obtain ⟨hresult, hgrows⟩ := Script.runAlone_asked hfaithful
  rw [hresult]
  refine ⟨fun access path errno => ?_, fun path bytes => ?_, fun path fallback hvisits hmissing =>
    hvisits.result_eq hmissing⟩
  · rw [candid_resolveFrame disk settings raw access path errno, mem_asked_resolveFrame,
      Disk.read_eq_refused]
  · rw [hgrows path bytes, mem_asked_resolveFrame]

/-- The text of a bundle whose map is beside it. -/
def markedText : Text := "\n".toList ++ (markerText ++ "b.map".toList)

/-- A disk with the bundle `/b.js`, whose map is there but refuses to be read. -/
def refusingMap : Disk :=
  (Disk.empty.put ⟨.slash, ["b.map".toList]⟩ ⟨some [], none, some 13⟩).put
    ⟨.slash, ["b.js".toList]⟩ (.file (Utf8.encode markedText))

theorem runAlone_resolveFrame_refused_map :
    let raw : RawFrame := ⟨"f".toList, "/b.js".toList, some 1, none, false⟩
    let ran := (resolveFrame .default raw).runAlone refusingMap ⟨.empty, [], .empty⟩
    ran.2 = .error (.unreadable .read ⟨.slash, ["b.map".toList]⟩ 13) ∧
      ran.1.cache.find? ⟨.slash, ["b.js".toList]⟩ = some (Utf8.encode markedText) := by
  intro raw ran
  have htarget : Target.ofRaw .default raw =
      .ok (.stored ⟨.slash, ["b.js".toList]⟩ "/b.js".toList) := by cbv
  have hread : refusingMap.read (Path.absolute ⟨.slash, ["b.js".toList]⟩) = .content _ :=
    Disk.read_put_file _ (by decide) _
  have hopened : Opened .default refusingMap raw _ _ _ :=
    ⟨htarget, rfl, result_fetchingText_eq_some.2 ⟨_, hread, Utf8.decodeLossy_encode _⟩⟩
  have hlast : lastReference? markedText = some "b.map".toList :=
    lastReference?_append_marker (.inr rfl) (List.all_eq_true.1 (by decide))
  have hmap : raw.Visits .default refusingMap (Path.absolute ⟨.slash, ["b.map".toList]⟩) _ :=
    .map hopened rfl hlast rfl (by cbv)
  have hempty : ∀ path fallback, raw.Visits .default refusingMap path fallback →
      ∀ bytes, Cache.empty.find? path = some bytes → refusingMap.read path = .content bytes :=
    fun path fallback hvisits bytes hfound => by cases hfound
  obtain ⟨hrefused, hcache, -⟩ := runAlone_resolveFrame_refused (s := ⟨.empty, [], .empty⟩) hempty
  refine ⟨(hrefused _ _ _).2 ⟨⟨_, hmap⟩, ?_⟩, (hcache _ _).2 (.inr ⟨⟨_, .own htarget rfl⟩, hread⟩)⟩
  exact .read (by decide) rfl rfl rfl rfl ⟨by decide, by decide⟩

end Retrace

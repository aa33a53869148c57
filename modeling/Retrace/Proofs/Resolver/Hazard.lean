import Mathlib
import Retrace.Proofs.Resolver.History
import Retrace.Proofs.Resolver.Resolution

/-!
# Frames that cannot be had

What keeps a raw frame from getting a frame, on a disk where every file that is there can be read:
a location, a reference or a source that is no URL, a NUL in a path, and a payload that ends in a
failure of its own. All else that may be wrong with a location, a bundle, a source map or a source
is dealt with. One raw frame of this kind takes the frames of all the others with it.

All texts here consist of characters. A payload can also write strings that do not, by the escape of
a surrogate on its own, and the file system does not take most of those for names. Of raw frames
whose source may have such a name no frame is promised.

* `TargetHazard`: locations that lead nowhere in a failure;
* `SourceHazard`: sources of a map that cannot be asked for;
* `FrameHazard`: raw frames without a frame;
* `TornSource`: raw frames whose source may have a name that is no text;
* `ofRaw_eq_ok_iff`, `resolveMapped_eq_ok_iff`, `resolveFile_eq_ok_iff`: the stages in order.

Main statements: `result_eq_ok_iff` and `Resolver.resolveFrames_act_ok_iff`.
-/

namespace Retrace

variable {disk : Disk} {settings : Settings} {raw : RawFrame}

/-! ### Targets -/

/-- Raw frames whose target is a failure. -/
inductive TargetHazard (settings : Settings) (raw : RawFrame) : Prop
  /-- The location is no URL. -/
  | location {fault : UrlFault} (hline : raw.line ≠ none) (h : Url.split raw.file = .error fault)
  /-- The working directory has a NUL. -/
  | workingDir (hfile : raw.file ≠ []) (hline : raw.line ≠ none)
      (h : settings.paths.workingDir.hasNul = true)
  /-- The directory of served files has a NUL. -/
  | publicDir {url : Url} (hline : raw.line ≠ none) (hurl : Url.split raw.file = .ok url)
      (hweb : url.isWeb = true) (h : settings.paths.publicDir.hasNul = true)
  /-- The path of the URL has a NUL. -/
  | urlPath {url : Url} (hline : raw.line ≠ none) (hurl : Url.split raw.file = .ok url)
      (hweb : url.isWeb = true) (h : (relativeOf url.path).hasNul = true)

theorem workingRoot_eq_error {fault : LinkFault} :
    settings.workingRoot = .error fault ↔
      settings.paths.workingDir.hasNul = true ∧ fault = .nullByte :=
  Path.resolve_eq_error

theorem publicRoot_eq_error {fault : LinkFault} :
    settings.publicRoot = .error fault ↔
      (settings.paths.workingDir.hasNul = true ∨ settings.paths.publicDir.hasNul = true) ∧
        fault = .nullByte := by
  rw [Settings.publicRoot, Settings.publicRootBy]
  cases hroot : settings.workingRootBy Path.resolve with
  | error other =>
    obtain ⟨hnul, rfl⟩ := workingRoot_eq_error.1 hroot
    rw [error_bind, Except.error.injEq]
    exact ⟨fun h => ⟨.inl hnul, h.symm⟩, fun h => h.2.symm⟩
  | ok root =>
    obtain ⟨hnul, -, hroot⟩ := Path.resolve_eq_ok hroot
    rw [ok_bind, Path.resolve_eq_error, Path.hasNul_join, hnul, hroot]
    simp

theorem hasNul_publicRoot {root : Path} (h : settings.publicRoot = .ok root) :
    root.hasNul = false := by
  obtain ⟨base, -, h⟩ := bind_eq_ok.1 h
  exact (Path.resolve_eq_ok h).2.2

theorem split_nil : Url.split [] = .ok ⟨[], [], []⟩ := rfl

/-- A raw frame without a location or a line is not listed. -/
theorem not_targetHazard (h : raw.file = [] ∨ raw.line = none) : ¬ TargetHazard settings raw := by
  have hsplit : ∀ {outcome}, raw.line ≠ none → Url.split raw.file = outcome →
      outcome = .ok ⟨[], [], []⟩ := by
    intro outcome hline hsplit
    rw [h.resolve_right hline, split_nil] at hsplit
    exact hsplit.symm
  rintro (⟨hline, hurl⟩ | ⟨hfile, hline, -⟩ | ⟨hline, hurl, hweb, -⟩ | ⟨hline, hurl, hweb, -⟩)
  · cases hsplit hline hurl
  · exact h.elim hfile hline
  · cases hsplit hline hurl
    cases hweb
  · cases hsplit hline hurl
    cases hweb

theorem targetHazard_iff {url : Url} (hfile : raw.file ≠ []) (hline : raw.line ≠ none)
    (hurl : Url.split raw.file = .ok url) :
    TargetHazard settings raw ↔ settings.paths.workingDir.hasNul = true ∨ url.isWeb = true ∧
      (settings.paths.publicDir.hasNul = true ∨ (relativeOf url.path).hasNul = true) := by
  constructor
  · rintro (⟨-, h⟩ | ⟨-, -, hnul⟩ | ⟨-, h, hweb, hnul⟩ | ⟨-, h, hweb, hnul⟩)
    · rw [hurl] at h
      cases h
    · exact .inl hnul
    · rw [hurl] at h
      cases h
      exact .inr ⟨hweb, .inl hnul⟩
    · rw [hurl] at h
      cases h
      exact .inr ⟨hweb, .inr hnul⟩
  · rintro (hnul | ⟨hweb, hnul | hnul⟩)
    · exact .workingDir hfile hline hnul
    · exact .publicDir hline hurl hweb hnul
    · exact .urlPath hline hurl hweb hnul

section Locations

variable {location : Text} {url : Url}

/-- A served location has a target unless a NUL is in a directory or in its path. -/
theorem ofLocation_eq_ok_iff_of_isWeb (hurl : Url.split location = .ok url)
    (hweb : url.isWeb = true) :
    (∃ target, Target.ofLocation settings location = .ok target) ↔
      ¬ ((settings.paths.workingDir.hasNul = true ∨ settings.paths.publicDir.hasNul = true) ∨
        (relativeOf url.path).hasNul = true) := by
  rw [Target.ofLocation, Target.ofLocationBy, SourceMap.splitUrl_eq_ok.2 hurl, ok_bind, if_pos hweb]
  cases hroot : settings.publicRootBy Path.resolve with
  | error fault =>
    refine iff_of_false ?_ (not_not_intro (.inl (publicRoot_eq_error.1 hroot).1))
    rintro ⟨target, ⟨⟩⟩
  | ok root =>
    have hdirs : ¬ (settings.paths.workingDir.hasNul = true ∨
        settings.paths.publicDir.hasNul = true) := by
      intro hnul
      cases hroot.symm.trans (publicRoot_eq_error.2 ⟨hnul, rfl⟩)
    -- a root that was resolved has no NUL, so only the path of the URL can have one
    have hnul : joinUnder root url.path = .error (.unresolved .nullByte) ↔
        (relativeOf url.path).hasNul = true := by
      rw [joinUnder_eq_nullByte, hasNul_publicRoot hroot]
      simp
    rw [show Except.mapError Failure.ofLink (.ok root) = .ok root from rfl, ok_bind,
      or_iff_right hdirs, ← hnul, joinUnder]
    cases hjoin : joinUnderBy Path.resolve root url.path with
    | ok file => simp
    | error fault =>
      cases fault with
      | unresolved fault => simp [eq_nullByte_of_joinUnder hjoin]
      | outside urlPath => simp

/-- A local location has a target unless a NUL is in the working directory. -/
theorem ofLocation_eq_ok_iff_of_not_isWeb (hurl : Url.split location = .ok url)
    (hweb : ¬ url.isWeb = true) :
    (∃ target, Target.ofLocation settings location = .ok target) ↔
      ¬ settings.paths.workingDir.hasNul = true := by
  rw [Target.ofLocation, Target.ofLocationBy, SourceMap.splitUrl_eq_ok.2 hurl, ok_bind, if_neg hweb]
  cases hroot : settings.workingRootBy Path.resolve with
  | error fault =>
    refine iff_of_false ?_ (not_not_intro (workingRoot_eq_error.1 hroot).1)
    rintro ⟨target, ⟨⟩⟩
  | ok root =>
    refine iff_of_true ⟨_, rfl⟩ ?_
    intro hnul
    cases hroot.symm.trans (workingRoot_eq_error.2 ⟨hnul, rfl⟩)

end Locations

/-- A raw frame has a target unless it is listed. -/
theorem ofRaw_eq_ok_iff :
    (∃ target, Target.ofRaw settings raw = .ok target) ↔ ¬ TargetHazard settings raw := by
  by_cases hnowhere : raw.file = [] ∨ raw.line = none
  · refine iff_of_true ⟨.nowhere, ?_⟩ (not_targetHazard hnowhere)
    rw [Target.ofRaw, Target.ofRawBy, if_pos (by simpa using hnowhere)]
  obtain ⟨hfile, hline⟩ := not_or.1 hnowhere
  rw [Target.ofRaw, Target.ofRawBy, if_neg (by simpa using hnowhere), ← Target.ofLocation]
  cases hurl : Url.split raw.file with
  | error fault =>
    rw [Target.ofLocation, Target.ofLocationBy, SourceMap.splitUrl_eq_error.2 ⟨fault, hurl, rfl⟩]
    exact iff_of_false (by simp) (not_not_intro (.location hline hurl))
  | ok url =>
    rw [targetHazard_iff hfile hline hurl]
    by_cases hweb : url.isWeb = true
    · rw [ofLocation_eq_ok_iff_of_isWeb hurl hweb, and_iff_right hweb, or_assoc]
    · rw [ofLocation_eq_ok_iff_of_not_isWeb hurl hweb, or_iff_left fun h => hweb h.1]

/-! ### Sources -/

/-- Sources of the map of a bundle that cannot be asked for. -/
inductive SourceHazard (bundle : Path) (source : Text) : Prop
  /-- The source is no URL. -/
  | url {fault : UrlFault} (h : Url.split source = .error fault)
  /-- The path of the source has a NUL. -/
  | file {path : Path} (hpath : sourceFile? bundle source = .ok (some path))
      (h : path.absolute.hasNul = true)

theorem sourceFile?_eq_error {bundle : Path} {source : Text} {failure : Failure} :
    sourceFile? bundle source = .error failure ↔
      ∃ fault, Url.split source = .error fault ∧ failure = .url fault := by
  rw [sourceFile?, bind_eq_error, SourceMap.splitUrl_eq_error]
  refine or_iff_left ?_
  rintro ⟨url, -, h⟩
  split at h
  · cases h
  · split at h <;> cases h

/-- The text of a file can be asked for unless its path has a NUL. -/
theorem fetchingText_eq_ok_iff (hplain : disk.Plain) {path : Path} :
    (∃ text?, (fetchingText path).result disk = .ok text?) ↔ path.absolute.hasNul = false := by
  rw [fetchingText, Script.result_bind, Script.result_fetching]
  cases hfetched : disk.fetched path.absolute with
  | error fault =>
    obtain ⟨hnul, -⟩ := hplain.fetched_eq_error.1 hfetched
    exact iff_of_false (by rintro ⟨_, ⟨⟩⟩) (by simp [hnul])
  | ok found =>
    refine iff_of_true ⟨_, rfl⟩ (Bool.eq_false_iff.2 fun hnul => ?_)
    rw [hplain.fetched_eq_error.2 ⟨hnul, rfl⟩] at hfetched
    cases hfetched

theorem sourceText_eq_ok_iff (hplain : disk.Plain) {bundle : Path} {map : SourceMap}
    {place : SourcePlace} :
    (∃ text?, (sourceText bundle map place).result disk = .ok text?) ↔
      (map.contentFor place.sourceIndex = none → ¬ SourceHazard bundle place.source) := by
  rw [sourceText]
  cases hcontent : map.contentFor place.sourceIndex with
  | some content => simp
  | none =>
    simp only [forall_const]
    rw [Script.result_bind, Script.result_ofExcept]
    cases hfile : sourceFile? bundle place.source with
    | error failure =>
      obtain ⟨fault, hsplit, -⟩ := sourceFile?_eq_error.1 hfile
      exact iff_of_false (by simp) (not_not_intro (.url hsplit))
    | ok path? =>
      have hurl : ∀ fault, Url.split place.source ≠ .error fault := fun fault hsplit => by
        rw [sourceFile?_eq_error.2 ⟨fault, hsplit, rfl⟩] at hfile
        cases hfile
      cases path? with
      | none =>
        refine iff_of_true ⟨none, rfl⟩ ?_
        rintro (⟨hsplit⟩ | ⟨hpath, -⟩)
        · exact hurl _ hsplit
        · rw [hfile] at hpath
          cases hpath
      | some path =>
        rw [ok_bind, fetchingText_eq_ok_iff hplain, Bool.eq_false_iff]
        refine not_congr ⟨fun hnul => .file hfile hnul, ?_⟩
        rintro (⟨hsplit⟩ | ⟨hpath, hnul⟩)
        · exact absurd hsplit (hurl _)
        · rw [hfile] at hpath
          cases hpath
          exact hnul

/-! ### Frames -/

theorem resolveMapped_eq_ok_iff (hplain : disk.Plain) (settings : Settings) (raw : RawFrame)
    (bundle : Path) {map : SourceMap} (hmap : map.FromPayload) :
    (∃ frame?, (resolveMapped settings raw bundle map).result disk = .ok frame?) ↔
      ∀ place, map.find? (fromZero raw.line) (fromZero raw.column) = .ok (some place) →
        map.contentFor place.sourceIndex = none → ¬ SourceHazard bundle place.source := by
  obtain ⟨place?, hplace⟩ := hmap.find?_eq_ok (fromZero raw.line) (fromZero raw.column)
  rw [resolveMapped, Script.result_bind, Script.result_ofExcept, hplace]
  rw [show Except.mapError Failure.lookup (.ok place?) = .ok place? from rfl, ok_bind]
  cases place? with
  | none => exact iff_of_true ⟨none, rfl⟩ (by simp)
  | some place =>
    simp only [Except.ok.injEq, Option.some.injEq, forall_eq']
    rw [← sourceText_eq_ok_iff hplain, Script.result_bind]
    cases (sourceText bundle map place).result disk with
    | error failure => simp
    | ok text? => cases text? <;> exact iff_of_true ⟨_, rfl⟩ ⟨_, rfl⟩

/-- Raw frames without a frame. -/
inductive FrameHazard (settings : Settings) (disk : Disk) (raw : RawFrame) : Prop
  | target (h : TargetHazard settings raw)
  /-- The path of the file has a NUL. -/
  | file {target : Target} {file : Path} (htarget : Target.ofRaw settings raw = .ok target)
      (hfile : target.file? = some file) (h : file.absolute.hasNul = true)
  /-- The last reference in the text of the file is listed. -/
  | reference {target : Target} {file : Path} {text reference : Text}
      (hopened : Opened settings disk raw target file text)
      (hreference : lastReference? text = some reference)
      (h : SourceMap.ReferenceHazard disk file target.root? reference)
  /-- The source that the map leads to is listed, and the map does not carry its text. -/
  | source {target : Target} {file : Path} {text : Text} {map : SourceMap} {place : SourcePlace}
      (hopened : Opened settings disk raw target file text)
      (hmap : (SourceMap.locate text file target.root?).result disk = .ok (some map))
      (hplace : map.find? (fromZero raw.line) (fromZero raw.column) = .ok (some place))
      (hcontent : map.contentFor place.sourceIndex = none) (h : SourceHazard file place.source)

section Files

variable {target : Target} {file : Path}

/-- A raw frame has no more than one target, and its target no more than one file. -/
theorem eq_of_ofRaw {file? : Option Path} (htarget : Target.ofRaw settings raw = .ok target)
    (hfile? : target.file? = file?) {other : Target}
    (hother : Target.ofRaw settings raw = .ok other) (hfile : other.file? = some file) :
    other = target ∧ file? = some file := by
  rw [htarget] at hother
  cases hother
  exact ⟨rfl, hfile?.symm.trans hfile⟩

/-- A raw frame whose target has no file is not listed. -/
theorem not_frameHazard_of_file?_eq_none (htarget : Target.ofRaw settings raw = .ok target)
    (hfile : target.file? = none) : ¬ FrameHazard settings disk raw := by
  rintro (h | ⟨hof, hsome, -⟩ | ⟨⟨hof, hsome, -⟩, -, -⟩ | ⟨⟨hof, hsome, -⟩, -, -, -, -⟩)
  · exact ofRaw_eq_ok_iff.1 ⟨target, htarget⟩ h
  all_goals cases (eq_of_ofRaw htarget hfile hof hsome).2

/-- When a raw frame whose target has a file is listed: what is wrong with the file, with the last
reference in its text, or with the source that the map leads to. -/
theorem not_frameHazard_iff (htarget : Target.ofRaw settings raw = .ok target)
    (hfile : target.file? = some file) :
    ¬ FrameHazard settings disk raw ↔
      file.absolute.hasNul = false ∧ ∀ text, (fetchingText file).result disk = .ok (some text) →
        (∀ reference, lastReference? text = some reference →
          ¬ SourceMap.ReferenceHazard disk file target.root? reference) ∧
        ∀ map place, (SourceMap.locate text file target.root?).result disk = .ok (some map) →
          map.find? (fromZero raw.line) (fromZero raw.column) = .ok (some place) →
            map.contentFor place.sourceIndex = none → ¬ SourceHazard file place.source := by
  constructor
  · intro h
    refine ⟨?_, fun text htext => ⟨?_, ?_⟩⟩
    · rw [Bool.eq_false_iff]
      intro hnul
      exact h (.file htarget hfile hnul)
    · intro reference hreference hhazard
      exact h (.reference ⟨htarget, hfile, htext⟩ hreference hhazard)
    · intro map place hmap hplace hcontent hhazard
      exact h (.source ⟨htarget, hfile, htext⟩ hmap hplace hcontent hhazard)
  · rintro ⟨hnul, htext⟩ (h | ⟨hof, hsome, h⟩ | ⟨⟨hof, hsome, hopened⟩, hreference, h⟩ |
      ⟨⟨hof, hsome, hopened⟩, hmap, hplace, hcontent, h⟩)
    · exact ofRaw_eq_ok_iff.1 ⟨target, htarget⟩ h
    · obtain ⟨rfl, ⟨⟩⟩ := eq_of_ofRaw htarget hfile hof hsome
      rw [hnul] at h
      cases h
    · obtain ⟨rfl, ⟨⟩⟩ := eq_of_ofRaw htarget hfile hof hsome
      exact (htext _ hopened).1 _ hreference h
    · obtain ⟨rfl, ⟨⟩⟩ := eq_of_ofRaw htarget hfile hof hsome
      exact (htext _ hopened).2 _ _ hmap hplace hcontent h

end Files

theorem resolveFile_eq_ok_iff (hplain : disk.Plain) {line : Int} (hline : raw.line = some line)
    {kind : TargetKind} {file : Path} {shown : Text} {root : Option Path} :
    (∃ frame, (resolveFile settings raw kind file shown root).result disk = .ok frame) ↔
      file.absolute.hasNul = false ∧ ∀ text, (fetchingText file).result disk = .ok (some text) →
        (∀ reference, lastReference? text = some reference →
          ¬ SourceMap.ReferenceHazard disk file root reference) ∧
        ∀ map place, (SourceMap.locate text file root).result disk = .ok (some map) →
          map.find? (fromZero raw.line) (fromZero raw.column) = .ok (some place) →
            map.contentFor place.sourceIndex = none → ¬ SourceHazard file place.source := by
  rw [result_resolveFile settings disk hline, ← fetchingText_eq_ok_iff hplain]
  cases (fetchingText file).result disk with
  | error failure => exact iff_of_false (by simp) (by simp)
  | ok text? =>
    cases text? with
    | none => exact iff_of_true ⟨_, rfl⟩ ⟨⟨_, rfl⟩, by simp⟩
    | some text =>
      simp only [Except.ok.injEq, Option.some.injEq, forall_eq', exists_eq', true_and, ok_bind]
      rw [← SourceMap.locate_eq_ok_iff hplain]
      cases hlocate : (SourceMap.locate text file root).result disk with
      | error failure => exact iff_of_false (by simp) (by simp)
      | ok map? =>
        cases map? with
        | none => exact iff_of_true ⟨_, rfl⟩ ⟨⟨_, rfl⟩, by simp⟩
        | some map =>
          have hmap := SourceMap.fromPayload_of_locate hlocate
          have hmapped := resolveMapped_eq_ok_iff hplain settings raw file hmap
          simp only [Except.ok.injEq, Option.some.injEq, exists_eq', true_and, ok_bind]
          constructor
          · rintro ⟨frame, hframe⟩ _ place rfl hplace hcontent
            obtain ⟨frame?, hframe?, -⟩ := bind_eq_ok.1 hframe
            exact hmapped.1 ⟨frame?, hframe?⟩ place hplace hcontent
          · intro h
            obtain ⟨frame?, hframe?⟩ := hmapped.2 fun place => h map place rfl
            exact ⟨_, bind_eq_ok.2 ⟨frame?, hframe?, rfl⟩⟩

/-- On a plain disk a raw frame has a frame unless it is listed. -/
theorem result_eq_ok_iff (hplain : disk.Plain) :
    (∃ frame, (resolveFrame settings raw).result disk = .ok frame) ↔
      ¬ FrameHazard settings disk raw := by
  rw [result_resolveFrame]
  by_cases htarget : TargetHazard settings raw
  · refine iff_of_false ?_ (not_not_intro (.target htarget))
    rintro ⟨frame, h⟩
    obtain ⟨target, hok, -⟩ := bind_eq_ok.1 h
    exact ofRaw_eq_ok_iff.1 ⟨target, hok⟩ htarget
  obtain ⟨target, hok⟩ := ofRaw_eq_ok_iff.2 htarget
  rw [hok, ok_bind]
  cases hfile : target.file? with
  | none => exact iff_of_true ⟨_, rfl⟩ (not_frameHazard_of_file?_eq_none hok hfile)
  | some file =>
    obtain ⟨line, hline⟩ := Target.line_of_file? hok hfile
    dsimp only
    rw [resolveFile_eq_ok_iff hplain hline, not_frameHazard_iff hok hfile]

/-! ### Names that are no texts -/

/-- The text of the payload that a reference holds or leads to. -/
inductive Conveyed (disk : Disk) (bundle : Path) (root : Option Path) (reference payload : Text) :
    Prop
  | inline {bytes : Bytes} (hinline : SourceMap.isInline reference = true)
      (hbytes : dataUrlBytes reference = .ok bytes) (h : Utf8.decode bytes = .ok payload)
  | external {path : Path} {bytes : Bytes} (hexternal : SourceMap.isInline reference = false)
      (hpath : referencePath reference bundle root = .ok path)
      (hread : disk.read path.absolute = .content bytes) (h : Utf8.decode bytes = .ok payload)

/-- Raw frames whose source is looked up by a name that may have a surrogate on its own: the name
has the character that stands for one, and the payload has the escape of one. -/
inductive TornSource (settings : Settings) (disk : Disk) (raw : RawFrame) : Prop
  | source {target : Target} {file : Path} {text reference payload : Text} {map : SourceMap}
      {place : SourcePlace} (hopened : Opened settings disk raw target file text)
      (hreference : lastReference? text = some reference)
      (hpayload : Conveyed disk file target.root? reference payload)
      (hescape : Json.hasLoneEscape (SourceMap.unguarded payload) = true)
      (hmap : (SourceMap.locate text file target.root?).result disk = .ok (some map))
      (hplace : map.find? (fromZero raw.line) (fromZero raw.column) = .ok (some place))
      (hcontent : map.contentFor place.sourceIndex = none)
      (h : Utf8.replacement ∈ place.source)

/-- A raw frame in a file without a reference has no source to look up. -/
theorem not_tornSource_of_lastReference {target : Target} {file : Path}
    (htarget : Target.ofRaw settings raw = .ok target) (hfile : target.file? = some file)
    (h : ∀ text, (fetchingText file).result disk = .ok (some text) → lastReference? text = none) :
    ¬ TornSource settings disk raw := by
  rintro ⟨⟨hof, hsome, hopened⟩, hreference, -, -, -, -, -, -⟩
  obtain ⟨rfl, ⟨⟩⟩ := eq_of_ofRaw htarget hfile hof hsome
  rw [h _ hopened] at hreference
  cases hreference

namespace Resolver

/-- **One frame can end a trace, in the ways that are listed and in no other.** On a plain disk the
frames of a trace, one for every raw frame and in their order, are not had if a raw frame is listed.
They are had if none is and no source has a name that may be no text, whatever was done before and
however the turns go. -/
theorem resolveFrames_act_ok_iff (hplain : disk.Plain) {w : Workplace} (h : w.Reached disk)
    (resolver : Resolver) (raws : List RawFrame) (turns : List Nat) :
    ((∃ frames,
      (resolver.act w fun s => resolveFrames resolver.settings disk s raws (.full turns)).2 =
        some (.ok frames) ∧
      raws.map (alone resolver.settings disk) = frames.map .ok) →
      ∀ raw ∈ raws, ¬ FrameHazard resolver.settings disk raw) ∧
    ((∀ raw ∈ raws, ¬ FrameHazard resolver.settings disk raw ∧
        ¬ TornSource resolver.settings disk raw) →
      ∃ frames,
        (resolver.act w fun s => resolveFrames resolver.settings disk s raws (.full turns)).2 =
          some (.ok frames) ∧
        raws.map (alone resolver.settings disk) = frames.map .ok) := by
  obtain ⟨outcome, hran, hends⟩ := act_resolveFrames h resolver raws turns
  rw [hran]
  constructor
  · rintro ⟨frames, -, hframes⟩ raw hraw
    rw [← result_eq_ok_iff hplain]
    have hmem : alone resolver.settings disk raw ∈ frames.map .ok :=
      hframes ▸ List.mem_map_of_mem hraw
    obtain ⟨frame, -, hframe⟩ := List.mem_map.1 hmem
    exact ⟨frame, by rw [← alone_eq_result, hframe]⟩
  · intro hraws
    -- a failure is that of one of the raw frames, which has a frame
    cases outcome with
    | ok frames => exact ⟨frames, rfl, hends⟩
    | error failure =>
      obtain ⟨raw, hraw, hfailure⟩ := List.mem_map.1 hends
      obtain ⟨frame, hframe⟩ := (result_eq_ok_iff hplain).2 (hraws raw hraw).1
      rw [← alone_eq_result, hfailure] at hframe
      cases hframe

theorem plain_oneFile : oneFile.Plain :=
  Disk.plain_of_nodes fun entry hentry => by
    rw [List.mem_singleton.1 hentry]
    exact ⟨by rintro _ ⟨⟩, by rintro _ ⟨⟩⟩

/-- Two frames, the first in a file that is there. -/
theorem resolveFrames_act_ok_iff_spellings :
    let raws : List RawFrame := [⟨"f".toList, "/a.js".toList, some 1, none, false⟩,
      ⟨"g".toList, "http://localhost/a.js".toList, some 2, some 3, false⟩]
    oneFile.Plain ∧ usedWorkplace.Reached oneFile ∧
      (∀ raw ∈ raws, ¬ FrameHazard .default oneFile raw ∧ ¬ TornSource .default oneFile raw) ∧
        ∃ frames,
          ((⟨.default, 0⟩ : Resolver).act usedWorkplace fun s =>
            resolveFrames .default oneFile s raws (.full [0, 1])).2 = some (.ok frames) ∧
          raws.map (alone .default oneFile) = frames.map .ok := by
  intro raws
  have hreached : usedWorkplace.Reached oneFile := .act (.hire .empty .default none) _ _
  have hstored : Target.ofRaw .default ⟨"f".toList, "/a.js".toList, some 1, none, false⟩ =
      .ok (.stored ⟨.slash, ["a.js".toList]⟩ "/a.js".toList) := by cbv
  have hserved : Target.ofRaw .default
      ⟨"g".toList, "http://localhost/a.js".toList, some 2, some 3, false⟩ =
        .ok (.served ⟨.slash, ["public".toList]⟩ ⟨.slash, ["public".toList, "a.js".toList]⟩) := by
    cbv
  have hthere : (fetchingText ⟨.slash, ["a.js".toList]⟩).result oneFile =
      .ok (some "one\ntwo".toList) := by cbv
  have hmissing : (fetchingText ⟨.slash, ["public".toList, "a.js".toList]⟩).result oneFile =
      .ok none := by cbv
  have htorn : ∀ raw ∈ raws, ¬ TornSource .default oneFile raw := by
    simp only [raws, List.forall_mem_cons, List.not_mem_nil, false_imp_iff, implies_true, and_true]
    constructor
    · refine not_tornSource_of_lastReference hstored rfl fun text htext => ?_
      rw [hthere] at htext
      cases htext
      cbv
    · refine not_tornSource_of_lastReference hserved rfl fun text htext => ?_
      rw [hmissing] at htext
      cases htext
  have hfrees : ∀ raw ∈ raws, ¬ FrameHazard .default oneFile raw := by
    refine (resolveFrames_act_ok_iff plain_oneFile hreached ⟨.default, 0⟩ raws [1, 0, 1]).1
      ⟨[⟨"f".toList, "/a.js".toList, some 1, none, "one\ntwo".toList, some 0, some 2, false⟩,
        ⟨"g".toList, "http://localhost/a.js".toList, some 2, some 3, [], none, none, false⟩],
        ?_, ?_⟩
    · cbv
    · cbv
  have hboth := fun raw hraw => And.intro (hfrees raw hraw) (htorn raw hraw)
  exact ⟨plain_oneFile, hreached, hboth,
    (resolveFrames_act_ok_iff plain_oneFile hreached ⟨.default, 0⟩ raws [0, 1]).2 hboth⟩

/-- A location whose host has a bracket that is not closed, on a disk without files. -/
theorem resolveFrames_open_bracket :
    let raw : RawFrame := ⟨"f".toList, "http://[".toList, some 1, some 1, false⟩
    let hired := hire .default none .empty
    RawFrame.create (.str "f".toList) (.str "http://[".toList) (.int 1) (.int 1) = .ok raw ∧
      Disk.empty.Plain ∧ hired.2.Reached .empty ∧
        (hired.1.act hired.2 fun s => resolveFrames .default .empty s [raw] (.full [])).2 =
          some (.error (.url .misplacedBracket)) := by
  refine ⟨?_, Disk.plain_of_nodes (by rintro _ ⟨⟩), .hire .empty .default none, ?_⟩
  · cbv
  · cbv

end Resolver

end Retrace

import Retrace.Proofs.Resolver.History
import Retrace.Proofs.Resolver.Resolution
import Retrace.Proofs.Snippet

/-!
# What a frame shows

A frame shows a window of the text that is found for its place, and nothing if no text is found. The
place is the one that the map of its file leads to, or else the place in the file itself.

* `Disk.HasText`, `Disk.Lacks`: what a disk has at a path;
* `SourceFound`: the text of a source, from the map or from the disk;
* `RawFrame.Finds`: all that can be found of a raw frame, one case for each way to a frame;
* `RawFrame.Finds.result_eq`, `exists_finds`: a raw frame comes to what is found of it, and to
  nothing else;
* `Frame.Windows`: how a frame lies in a text.

Main statement: `Resolver.resolveFrame_act_window`.
-/

namespace Retrace

variable {disk : Disk} {settings : Settings} {raw : RawFrame}

/-- Whether a disk has a file with a text, malformed parts replaced. -/
def Disk.HasText (disk : Disk) (path : Path) (text : Text) : Prop :=
  ∃ bytes, disk.read path.absolute = .content bytes ∧ Utf8.decodeLossy bytes = text

/-- Whether a disk has no file at a path. -/
def Disk.Lacks (disk : Disk) (path : Path) : Prop :=
  disk.read path.absolute = .absent ∨ disk.read path.absolute = .notFile

theorem result_fetchingText_eq_ok {path : Path} {text? : Option Text} :
    (fetchingText path).result disk = .ok text? ↔
      ∃ found, disk.fetched path.absolute = .ok found ∧ found.map Utf8.decodeLossy = text? := by
  rw [fetchingText, Script.result_bind, Script.result_fetching, bind_eq_ok]
  simp only [mapError_eq_ok, Script.result_pure, Except.ok.injEq]

theorem result_fetchingText_eq_some {path : Path} {text : Text} :
    (fetchingText path).result disk = .ok (some text) ↔ disk.HasText path text := by
  rw [result_fetchingText_eq_ok, Disk.HasText]
  simp only [← Disk.fetched_eq_some, Option.map_eq_some_iff]
  constructor
  · rintro ⟨found, hfound, bytes, rfl, htext⟩
    exact ⟨bytes, hfound, htext⟩
  · rintro ⟨bytes, hfound, htext⟩
    exact ⟨some bytes, hfound, bytes, rfl, htext⟩

theorem result_fetchingText_eq_none {path : Path} :
    (fetchingText path).result disk = .ok none ↔ disk.Lacks path := by
  rw [result_fetchingText_eq_ok, Disk.Lacks, ← Disk.fetched_eq_none]
  simp only [Option.map_eq_none_iff, exists_eq_right]

/-! ### What is found -/

/-- What is found for the text of the source of a place. -/
inductive SourceFound (disk : Disk) (bundle : Path) (map : SourceMap) (place : SourcePlace) :
    Option Text → Prop
  /-- The map carries the text. -/
  | carried {text : Text} (h : map.contentFor place.sourceIndex = some text) :
      SourceFound disk bundle map place (some text)
  /-- The source leads to a file that is there. -/
  | stored {path : Path} {text : Text} (hcontent : map.contentFor place.sourceIndex = none)
      (hpath : sourceFile? bundle place.source = .ok (some path)) (h : disk.HasText path text) :
      SourceFound disk bundle map place (some text)
  /-- The source leads to no file. -/
  | nowhere (hcontent : map.contentFor place.sourceIndex = none)
      (h : sourceFile? bundle place.source = .ok none) : SourceFound disk bundle map place none
  /-- The source leads to a file that is not there. -/
  | absent {path : Path} (hcontent : map.contentFor place.sourceIndex = none)
      (hpath : sourceFile? bundle place.source = .ok (some path)) (h : disk.Lacks path) :
      SourceFound disk bundle map place none

theorem result_sourceText_eq_ok {bundle : Path} {map : SourceMap} {place : SourcePlace}
    {text? : Option Text} :
    (sourceText bundle map place).result disk = .ok text? ↔
      SourceFound disk bundle map place text? := by
  rw [sourceText]
  constructor
  · intro h
    split at h
    · rename_i content hcontent
      cases h
      exact .carried hcontent
    · rename_i hcontent
      rw [Script.result_bind, bind_eq_ok] at h
      obtain ⟨path?, hpath, h⟩ := h
      cases path? with
      | none =>
        cases h
        exact .nowhere hcontent hpath
      | some path =>
        cases text? with
        | none => exact .absent hcontent hpath (result_fetchingText_eq_none.1 h)
        | some text => exact .stored hcontent hpath (result_fetchingText_eq_some.1 h)
  · rintro (⟨h⟩ | ⟨hcontent, hpath, h⟩ | ⟨hcontent, h⟩ | ⟨hcontent, hpath, h⟩)
    · rw [h]
      rfl
    · rw [hcontent]
      dsimp only
      rw [Script.result_bind, Script.result_ofExcept, hpath]
      exact result_fetchingText_eq_some.2 h
    · rw [hcontent]
      dsimp only
      rw [Script.result_bind, Script.result_ofExcept, h]
      rfl
    · rw [hcontent]
      dsimp only
      rw [Script.result_bind, Script.result_ofExcept, hpath]
      exact result_fetchingText_eq_none.2 h

/-- A place to show, without a text or with the text that is there. -/
inductive Finding
  | bare (file : Text) (line column : Option Int)
  | lines (file : Text) (line : Int) (column : Option Int) (text : Text)

/-- The place in a source that a map leads to, with what is found for the text of the source. -/
def Finding.ofPlace (place : SourcePlace) : Option Text → Finding
  | none => bare place.source (some (place.line + 1)) (some (place.column + 1))
  | some text => lines place.source (place.line + 1) (some (place.column + 1)) text

/-- What is found of a raw frame. -/
inductive RawFrame.Finds (settings : Settings) (disk : Disk) (raw : RawFrame) : Finding → Prop
  /-- There is no file to look at. -/
  | nowhere {target : Target} (htarget : Target.ofRaw settings raw = .ok target)
      (hfile : target.file? = none) : Finds settings disk raw (.bare raw.file raw.line raw.column)
  /-- The file is not there. -/
  | absent {target : Target} {file : Path} (htarget : Target.ofRaw settings raw = .ok target)
      (hfile : target.file? = some file) (h : disk.Lacks file) :
      Finds settings disk raw (.bare raw.file raw.line raw.column)
  /-- The file has no map that can be used. -/
  | own {target : Target} {file : Path} {text : Text} {line : Int}
      (hopened : Opened settings disk raw target file text) (hline : raw.line = some line)
      (hmap : (SourceMap.locate text file target.root?).result disk = .ok none) :
      Finds settings disk raw (.lines (target.shownFile raw) line raw.column text)
  /-- The map of the file leads nowhere from the place. -/
  | unmapped {target : Target} {file : Path} {text : Text} {line : Int} {map : SourceMap}
      (hopened : Opened settings disk raw target file text) (hline : raw.line = some line)
      (hmap : (SourceMap.locate text file target.root?).result disk = .ok (some map))
      (hplace : map.find? (fromZero raw.line) (fromZero raw.column) = .ok none) :
      Finds settings disk raw (.lines (target.shownFile raw) line raw.column text)
  /-- The map of the file leads to a source. -/
  | mapped {target : Target} {file : Path} {text : Text} {map : SourceMap} {place : SourcePlace}
      {text? : Option Text} (hopened : Opened settings disk raw target file text)
      (hmap : (SourceMap.locate text file target.root?).result disk = .ok (some map))
      (hplace : map.find? (fromZero raw.line) (fromZero raw.column) = .ok (some place))
      (hsource : SourceFound disk file map place text?) :
      Finds settings disk raw (.ofPlace place text?)

/-- The frame of a raw frame of which something is found. -/
def Finding.toFrame (settings : Settings) (raw : RawFrame) : Finding → Frame
  | bare file line column => ⟨raw.name, file, line, column, [], none, none, raw.anonymous⟩
  | lines file line column text => snippetFrame settings raw file text line column

/-- What becomes of a raw frame whose file has a map. -/
theorem result_resolveMapped_eq (settings : Settings) (disk : Disk) (raw : RawFrame)
    (bundle : Path) (map : SourceMap) :
    (resolveMapped settings raw bundle map).result disk =
      (map.find? (fromZero raw.line) (fromZero raw.column)).mapError .lookup >>= fun place? =>
        match place? with
        | none => .ok none
        | some place =>
          (sourceText bundle map place).result disk >>= fun text? =>
            .ok (some ((Finding.ofPlace place text?).toFrame settings raw)) := by
  rw [resolveMapped, Script.result_bind, Script.result_ofExcept]
  refine congrArg (_ >>= ·) (funext fun place? => ?_)
  cases place? with
  | none => rfl
  | some place =>
    dsimp only
    rw [Script.result_bind]
    refine congrArg (_ >>= ·) (funext fun text? => ?_)
    cases text? <;> rfl

/-- A frame is made of what is found. -/
theorem RawFrame.Finds.result_eq {finding : Finding} (h : raw.Finds settings disk finding) :
    (resolveFrame settings raw).result disk = .ok (finding.toFrame settings raw) := by
  cases h with
  | nowhere htarget hfile =>
    rw [result_resolveFrame, htarget, ok_bind, hfile]
    rfl
  | @absent target file htarget hfile h =>
    obtain ⟨line, hline⟩ := Target.line_of_file? htarget hfile
    rw [result_resolveFrame, htarget, ok_bind, hfile]
    dsimp only
    rw [result_resolveFile settings disk hline, result_fetchingText_eq_none.2 h]
    rfl
  | @own target file text line hopened hline hmap =>
    rw [result_resolveFrame, hopened.ofRaw_eq, ok_bind, hopened.file?_eq]
    dsimp only
    rw [result_resolveFile settings disk hline, hopened.result_eq, ok_bind]
    dsimp only
    rw [hmap]
    rfl
  | @unmapped target file text line map hopened hline hmap hplace =>
    rw [result_resolveFrame, hopened.ofRaw_eq, ok_bind, hopened.file?_eq]
    dsimp only
    rw [result_resolveFile settings disk hline, hopened.result_eq, ok_bind]
    dsimp only
    rw [hmap, ok_bind]
    dsimp only
    rw [result_resolveMapped_eq, hplace]
    rfl
  | @mapped target file text map place text? hopened hmap hplace hsource =>
    refine hopened.result_eq_of_mapped hmap ?_
    rw [result_resolveMapped_eq, hplace]
    show ((sourceText file map place).result disk >>= _) = _
    rw [result_sourceText_eq_ok.2 hsource]
    rfl

/-- Where there is a frame, something was found. -/
theorem exists_finds {frame : Frame} (h : (resolveFrame settings raw).result disk = .ok frame) :
    ∃ finding, raw.Finds settings disk finding := by
  rw [result_resolveFrame, bind_eq_ok] at h
  obtain ⟨target, htarget, h⟩ := h
  cases hfile : target.file? with
  | none => exact ⟨_, .nowhere htarget hfile⟩
  | some file =>
    obtain ⟨line, hline⟩ := Target.line_of_file? htarget hfile
    rw [hfile] at h
    dsimp only at h
    rw [result_resolveFile settings disk hline, bind_eq_ok] at h
    obtain ⟨text?, htext, h⟩ := h
    cases text? with
    | none => exact ⟨_, .absent htarget hfile (result_fetchingText_eq_none.1 htext)⟩
    | some text =>
      have hopened : Opened settings disk raw target file text := ⟨htarget, hfile, htext⟩
      dsimp only at h
      obtain ⟨map?, hmap, h⟩ := bind_eq_ok.1 h
      cases map? with
      | none => exact ⟨_, .own hopened hline hmap⟩
      | some map =>
        dsimp only at h
        obtain ⟨mapped, hmapped, -⟩ := bind_eq_ok.1 h
        rw [result_resolveMapped_eq] at hmapped
        obtain ⟨place?, hplace, hmapped⟩ := bind_eq_ok.1 hmapped
        cases place? with
        | none => exact ⟨_, .unmapped hopened hline hmap (mapError_eq_ok.1 hplace)⟩
        | some place =>
          obtain ⟨text?, hsource, -⟩ := bind_eq_ok.1 hmapped
          exact ⟨_, .mapped hopened hmap (mapError_eq_ok.1 hplace)
            (result_sourceText_eq_ok.1 hsource)⟩

/-! ### Windows -/

/-- How a frame lies in a text: it shows the lines from `start` to `stop`, exclusive, and its own
line among them if the text has that. -/
structure Frame.Windows (text : Text) (context : Nat) (line start stop : Int) (frame : Frame) :
    Prop where
  start_eq : frame.start = some start
  stop_eq : frame.stop = some stop
  bounds : 0 ≤ start ∧ start ≤ stop ∧ stop ≤ (text.pieces '\n').length
  size_le : stop - start ≤ 2 * context
  code_eq : line ≤ (text.pieces '\n').length → frame.code =
    Text.joined ['\n'] (((text.pieces '\n').drop start.toNat).take (stop - start).toNat)
  line_mem : line ≤ (text.pieces '\n').length → start ≤ line - 1 ∧ line - 1 < stop
  currentIndex_eq : line ≤ (text.pieces '\n').length → frame.currentIndex = some (line - 1 - start)
  own_line : line ≤ (text.pieces '\n').length → ∃ own,
    (text.pieces '\n')[(line - 1).toNat]? = some own ∧
      (Text.pieces '\n' frame.code)[(line - 1 - start).toNat]? = some own
  beyond : (text.pieces '\n').length < line → frame.code = [] ∧ frame.currentIndex = none

/-- Whether a frame shows what is found: its place, and a window of the text if there is one. -/
def Finding.Shown (context : Nat) (frame : Frame) : Finding → Prop
  | bare file line column =>
    frame.file = file ∧ frame.line = line ∧ frame.column = column ∧
      frame.start = none ∧ frame.stop = none ∧ frame.code = []
  | lines file line column text =>
    frame.file = file ∧ frame.line = some line ∧ frame.column = column ∧
      ∃ start stop, frame.Windows text context line start stop

theorem windows_snippetFrame (raw : RawFrame) (file text : Text) {line : Int} (column : Option Int)
    (hline : 1 ≤ line) (hcontext : 1 ≤ settings.contextLines) :
    (snippetFrame settings raw file text line column).Windows text settings.contextLines line
      (Snippet.extract text line settings.contextLines).start
      (Snippet.extract text line settings.contextLines).stop := by
  have hradius : (1 : Int) ≤ settings.contextLines := by omega
  have hshows := Snippet.shows_iff (t := text) hline hradius
  have hmem : (Snippet.extract text line settings.contextLines).shows line = true ↔ _ :=
    decide_eq_true_iff
  refine ⟨rfl, rfl, Snippet.extract_bounds _ _ _, Snippet.stopOf_sub_startOf_le (by omega),
    fun h => ?_, fun h => ?_, fun h => ?_, fun h => ?_, fun h => ?_⟩
  · rw [snippetFrame, if_pos (hshows.2 h)]
    rfl
  · exact hmem.1 (hshows.2 h)
  · rw [Frame.currentIndex_eq_some]
    exact ⟨_, _, _, rfl, rfl, rfl, rfl, hmem.1 (hshows.2 h)⟩
  · have hown := Snippet.getElem?_pieces_code (hshows.2 h)
    have hlt : (line - 1).toNat < (text.pieces '\n').length := by omega
    rw [List.getElem?_eq_getElem hlt] at hown ⊢
    refine ⟨_, rfl, ?_⟩
    rw [snippetFrame, if_pos (hshows.2 h)]
    exact hown
  · have hnot : ¬ (Snippet.extract text line settings.contextLines).shows line = true := by
      rw [hshows]
      omega
    refine ⟨if_neg hnot, ?_⟩
    rw [Option.eq_none_iff_forall_ne_some]
    intro index hindex
    obtain ⟨_, _, _, hstart, hstop, hline', -, hindex⟩ := Frame.currentIndex_eq_some.1 hindex
    cases hstart
    cases hstop
    cases hline'
    exact hnot (hmem.2 hindex)

/-- A map that was read from a payload leads to no line before the first. -/
theorem SourceMap.FromPayload.line_nonneg {map : SourceMap} (h : map.FromPayload)
    {line column : Int} {place : SourcePlace} (hplace : map.find? line column = .ok (some place)) :
    0 ≤ place.line := by
  rw [find?] at hplace
  split at hplace
  · cases hplace
  · rename_i segment hsegment
    obtain ⟨row, hrow, hmem⟩ := mem_of_segmentFor hsegment
    have hvalid := h.wellFormed.valid row hrow segment hmem
    split at hplace
    · rename_i found hfound
      cases hplace
      obtain ⟨source, -, rfl⟩ := Option.map_eq_some_iff.1 hfound
      exact hvalid.sourceLine
    · cases hplace

/-- The frame of what is found shows it. -/
theorem RawFrame.Finds.shown {finding : Finding} (h : raw.Finds settings disk finding)
    (hline : ∀ line, raw.line = some line → 1 ≤ line) (hcontext : 1 ≤ settings.contextLines) :
    finding.Shown settings.contextLines (finding.toFrame settings raw) := by
  cases h with
  | nowhere htarget hfile => exact ⟨rfl, rfl, rfl, rfl, rfl, rfl⟩
  | absent htarget hfile h => exact ⟨rfl, rfl, rfl, rfl, rfl, rfl⟩
  | own hopened hown hmap =>
    exact ⟨rfl, rfl, rfl, _, _, windows_snippetFrame raw _ _ _ (hline _ hown) hcontext⟩
  | unmapped hopened hown hmap hplace =>
    exact ⟨rfl, rfl, rfl, _, _, windows_snippetFrame raw _ _ _ (hline _ hown) hcontext⟩
  | @mapped target file text map place text? hopened hmap hplace hsource =>
    cases text? with
    | none => exact ⟨rfl, rfl, rfl, rfl, rfl, rfl⟩
    | some text =>
      have hplaced := (SourceMap.fromPayload_of_locate hmap).line_nonneg hplace
      exact ⟨rfl, rfl, rfl, _, _, windows_snippetFrame raw _ _ _ (by omega) hcontext⟩

namespace Resolver

variable {w : Workplace}

/-- **A frame shows a window of what is found for its place.** Whatever a resolver did before, if it
makes a frame of a raw frame then something is found of the raw frame: either no text, and the frame
has no snippet, or a text, and the frame shows a window of it in which its own line, if the text has
it, stands where the frame says. -/
theorem resolveFrame_act_window (hw : w.Reached disk) (resolver : Resolver)
    (hcontext : 1 ≤ resolver.settings.contextLines)
    (hline : ∀ line, raw.line = some line → 1 ≤ line) {frame : Frame}
    (h : (resolver.act w fun s => (resolveFrame resolver.settings raw).runAlone disk s).2 =
      .ok frame) :
    (∃ finding, raw.Finds resolver.settings disk finding) ∧
      ∀ finding, raw.Finds resolver.settings disk finding →
        finding.Shown resolver.settings.contextLines frame := by
  have hcache := Workplace.faithful_cacheAt hw.faithful resolver.cache
  have hresult : (resolveFrame resolver.settings raw).result disk = .ok frame :=
    (Script.runAlone_faithful (s := w.desk resolver.cache) hcache _).1.symm.trans h
  refine ⟨exists_finds hresult, fun finding hfinding => ?_⟩
  rw [hfinding.result_eq, Except.ok.injEq] at hresult
  rw [← hresult]
  exact hfinding.shown hline hcontext

/-- Settings with one line on each side of a snippet. -/
def narrow : Settings := ⟨.default, 1, .default, .default, []⟩

/-- A frame on the last line of a file. -/
def lastLine : RawFrame := ⟨"f".toList, "/x/../a.js".toList, some 2, none, false⟩

/-- The end of the file cuts the window off. -/
theorem resolveFrame_act_window_last :
    ∃ finding, lastLine.Finds narrow oneFile finding ∧
      finding.Shown 1 ⟨"f".toList, "/x/../a.js".toList, some 2, none, "two".toList, some 1, some 2,
        false⟩ := by
  have hreached : usedWorkplace.Reached oneFile := .act (.hire .empty .default none) _ _
  have hframe : (resolveFrame narrow lastLine).result oneFile = .ok ⟨"f".toList,
      "/x/../a.js".toList, some 2, none, "two".toList, some 1, some 2, false⟩ := by cbv
  have hcache := Workplace.faithful_cacheAt hreached.faithful 0
  obtain ⟨⟨finding, hfinding⟩, hshown⟩ := resolveFrame_act_window hreached ⟨narrow, 0⟩
    (Nat.le_refl 1) (by rintro line ⟨⟩; decide)
    ((Script.runAlone_faithful (s := usedWorkplace.desk 0) hcache _).1.trans hframe)
  exact ⟨finding, hfinding, hshown finding hfinding⟩

end Resolver

end Retrace

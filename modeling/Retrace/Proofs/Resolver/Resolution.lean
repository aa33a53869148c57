import Retrace.Proofs.SourceMap.Locate

/-!
# The way to a frame

What a raw frame comes to by the disk alone, stage by stage: its target, the text of the file of the
target, the source map of that text, and the place and the source that the map leads to.

* `result_resolveFrame`, `result_resolveFile`: the stages in order;
* `Opened`: the text of the file of a raw frame;
* `result_resolveMapped`: the last stage, where the map carries the source.

Main statement: `Opened.result_eq_of_mapped`, a raw frame whose file is there and whose map leads
on.
-/

namespace Retrace

variable {disk : Disk} {settings : Settings} {raw : RawFrame}

/-- A file that is there and the text in it, for a raw frame with a line. -/
theorem result_resolveFile (settings : Settings) (disk : Disk) {raw : RawFrame} {line : Int}
    (hline : raw.line = some line) (kind : TargetKind) (file : Path) (shown : Text)
    (root : Option Path) :
    (resolveFile settings raw kind file shown root).result disk =
      (fetchingText file).result disk >>= fun text? =>
        match text? with
        | none => .ok (Frame.unresolved raw)
        | some text =>
          (SourceMap.locate text file root).result disk >>= fun map? =>
            (match map? with
              | some map => (resolveMapped settings raw file map).result disk
              | none => .ok none) >>= fun mapped =>
            .ok (mapped.getD (snippetFrame settings raw shown text line raw.column)) := by
  rw [resolveFile, Script.result_bind]
  cases (fetchingText file).result disk with
  | error failure => rfl
  | ok text? =>
    rw [ok_bind, ok_bind, hline]
    cases text? with
    | none => rfl
    | some text =>
      dsimp only
      rw [Script.result_bind]
      refine congrArg (_ >>= ·) (funext fun map? => ?_)
      cases map? with
      | none => rfl
      | some map => exact Script.result_bind disk _ _

/-- The root that the file of a target is served from. -/
def Target.root? : Target → Option Path
  | served root _ => some root
  | _ => none

theorem Target.line_of_file? {target : Target} {file : Path}
    (htarget : Target.ofRaw settings raw = .ok target) (hfile : target.file? = some file) :
    ∃ line, raw.line = some line := by
  rw [← Option.isSome_iff_exists, Option.isSome_iff_ne_none]
  intro hline
  rw [Target.ofRaw, Target.ofRawBy, if_pos (by simp [hline])] at htarget
  cases htarget
  cases hfile

/-- A raw frame comes to a frame by way of the file of its target. -/
theorem result_resolveFrame (settings : Settings) (disk : Disk) (raw : RawFrame) :
    (resolveFrame settings raw).result disk =
      Target.ofRaw settings raw >>= fun target =>
        match target.file? with
        | none => .ok (Frame.unresolved raw)
        | some file =>
          (resolveFile settings raw target.kind file (target.shownFile raw) target.root?).result
            disk := by
  rw [resolveFrame, Script.result_bind, Script.result_ofExcept]
  refine congrArg (_ >>= ·) (funext fun target => ?_)
  rw [Script.result_bind, Script.result_notingAll, ok_bind]
  cases target <;> rfl

/-- The text of the file of a raw frame. -/
structure Opened (settings : Settings) (disk : Disk) (raw : RawFrame) (target : Target)
    (file : Path) (text : Text) : Prop where
  ofRaw_eq : Target.ofRaw settings raw = .ok target
  file?_eq : target.file? = some file
  result_eq : (fetchingText file).result disk = .ok (some text)

/-- The place and the source that a map leads to, where it carries the text of the source. -/
theorem result_resolveMapped (settings : Settings) (disk : Disk) {raw : RawFrame} (bundle : Path)
    {map : SourceMap} {place : SourcePlace} {content : Text}
    (hplace : map.find? (fromZero raw.line) (fromZero raw.column) = .ok (some place))
    (hcontent : map.contentFor place.sourceIndex = some content) :
    (resolveMapped settings raw bundle map).result disk =
      .ok (some (snippetFrame settings raw place.source content (place.line + 1)
        (some (place.column + 1)))) := by
  rw [resolveMapped, Script.result_bind, Script.result_ofExcept, hplace]
  show ((sourceText bundle map place >>= _ : Script Failure (Option Frame)).result disk) = _
  rw [Script.result_bind, sourceText, hcontent]
  rfl

/-- A raw frame whose file is there shows the frame of its map, if the map leads on. -/
theorem Opened.result_eq_of_mapped {target : Target} {file : Path} {text : Text} {map : SourceMap}
    {frame : Frame} (h : Opened settings disk raw target file text)
    (hmap : (SourceMap.locate text file target.root?).result disk = .ok (some map))
    (hframe : (resolveMapped settings raw file map).result disk = .ok (some frame)) :
    (resolveFrame settings raw).result disk = .ok frame := by
  obtain ⟨line, hline⟩ := Target.line_of_file? h.ofRaw_eq h.file?_eq
  rw [result_resolveFrame, h.ofRaw_eq, ok_bind, h.file?_eq]
  dsimp only
  rw [result_resolveFile settings disk hline, h.result_eq, ok_bind]
  dsimp only
  rw [hmap, ok_bind]
  dsimp only
  rw [hframe]
  rfl

end Retrace

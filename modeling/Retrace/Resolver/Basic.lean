import Retrace.Cache
import Retrace.Resolver.Target
import Retrace.Snippet

/-!
# Resolving frames

The way from a raw frame to a frame to show: `TraceResolver.resolve_frame`, with
`SourceMapLocator.locate` on the way. The file that the frame's location leads to is fetched. If it
refers to a source map, and the map leads on from the frame's place, the frame shows the place in a
source, with a snippet of that source where that can be had. If there is no map to go by, the frame
shows a snippet of the file itself, and without a file the raw location.

* `SourceMap.locate`: the source map of a bundle, `SourceMap.load`: the one behind a reference;
* `resolveFrame`: the frame of a raw frame.

Lines and columns of frames count from one, those of source maps from zero. The failure to read a
file that is there is never covered up.

Main statement: `resolveFrame_nowhere`.
-/

namespace Retrace

namespace SourceMap

/-- The source map in the file that a reference leads to. -/
def load (reference : Text) (bundle : Path) (root : Option Path) : Script Failure SourceMap := do
  let path ← Script.ofExcept (referencePath reference bundle root)
  match ← Script.fetching path with
  | none => Script.ofExcept (.error (.undecodable (.fileMissing path.toText)))
  | some bytes => Script.ofExcept (ofBytes bytes)

/-- Whether a reference holds its source map. -/
def isInline (reference : Text) : Bool := Text.startsWith dataScheme reference

/-- The source map that a reference holds or leads to. -/
def follow (reference : Text) (bundle : Path) (root : Option Path) : Script Failure SourceMap :=
  if isInline reference then Script.ofExcept (ofDataUrl reference) else load reference bundle root

/-- The source map of a bundle, if it refers to one that can be used. -/
def locate (text : Text) (bundle : Path) (root : Option Path) :
    Script Failure (Option SourceMap) :=
  match lastReference? text with
  | none => do
    Script.noting (.sourceMapNotFound bundle)
    return none
  | some reference =>
    (follow reference bundle root).andThen fun
      | .ok map => do
        Script.noting (.sourceMapDecoded bundle map.sources.length)
        return some map
      | .error failure =>
        if failure.leavesMapOut then do
          Script.noting (.sourceMapFailed bundle (isInline reference) failure)
          return none
        else Script.ofExcept (.error failure)

end SourceMap

/-- The text of a file, malformed parts replaced. -/
def fetchingText (path : Path) : Script Failure (Option Text) := do
  return (← Script.fetching path).map Utf8.decodeLossy

/-- The number from zero of a position that counts from one; a position that is not given, or zero,
is the first. -/
def fromZero : Option Int → Int
  | none => 0
  | some position => if position = 0 then 0 else position - 1

/-- The frame of a raw frame at a place in a source, with a snippet of its text. Only a snippet that
has the line shows code. -/
def snippetFrame (settings : Settings) (raw : RawFrame) (file text : Text) (line : Int)
    (column : Option Int) : Frame :=
  let snippet := Snippet.extract text line settings.contextLines
  ⟨raw.name, file, some line, column, if snippet.shows line then snippet.code else [],
    some snippet.start, some snippet.stop, raw.anonymous⟩

/-- The frame of a raw frame at a place in a source that cannot be had. -/
def bareFrame (raw : RawFrame) (file : Text) (line column : Int) : Frame :=
  ⟨raw.name, file, some line, some column, [], none, none, raw.anonymous⟩

/-- The text of the source of a place: the one that the map carries, or that of the file that the
source leads to. -/
def sourceText (bundle : Path) (map : SourceMap) (place : SourcePlace) :
    Script Failure (Option Text) :=
  match map.contentFor place.sourceIndex with
  | some content => return some content
  | none => do
    match ← Script.ofExcept (sourceFile? bundle place.source) with
    | none => return none
    | some path => fetchingText path

/-- The frame of a raw frame at the place that a source map leads to, if it leads to one. -/
def resolveMapped (settings : Settings) (raw : RawFrame) (bundle : Path) (map : SourceMap) :
    Script Failure (Option Frame) := do
  let place ← Script.ofExcept
    ((map.find? (fromZero raw.line) (fromZero raw.column)).mapError .lookup)
  match place with
  | none =>
    Script.noting (.sourceMapNoEntry raw.file raw.line)
    return none
  | some place =>
    match ← sourceText bundle map place with
    | none =>
      Script.noting (.sourceMissing place.source)
      return some (bareFrame raw place.source (place.line + 1) (place.column + 1))
    | some text =>
      return some
        (snippetFrame settings raw place.source text (place.line + 1) (some (place.column + 1)))

/-- The frame of a raw frame that keeps its location. -/
def unresolved (raw : RawFrame) (kind : TargetKind) : Script Failure Frame := do
  Script.noting (.frameUnresolved raw.file kind)
  return Frame.unresolved raw

/-- The frame of a raw frame whose code is in a file; `root` is where files are served from, for a
file that is served. -/
def resolveFile (settings : Settings) (raw : RawFrame) (kind : TargetKind) (file : Path)
    (shown : Text) (root : Option Path) : Script Failure Frame := do
  match ← fetchingText file, raw.line with
  | some text, some line =>
    let mapped ←
      match ← SourceMap.locate text file root with
      | some map => resolveMapped settings raw file map
      | none => pure none
    return mapped.getD (snippetFrame settings raw shown text line raw.column)
  | _, _ => unresolved raw kind

/-- The frame of a raw frame. -/
def resolveFrame (settings : Settings) (raw : RawFrame) : Script Failure Frame := do
  let target ← Script.ofExcept (Target.ofRaw settings raw)
  Script.notingAll (target.events raw)
  match target with
  | .nowhere => return Frame.unresolved raw
  | .outside _ => unresolved raw .bundle
  | .served root file => resolveFile settings raw .bundle file raw.file (some root)
  | .stored file shown => resolveFile settings raw .file file shown none

/-- A frame without a location is shown as it is. -/
theorem resolveFrame_nowhere (settings : Settings) {raw : RawFrame} (h : raw.file = []) :
    resolveFrame settings raw = .done (.ok (Frame.unresolved raw)) := by
  simp only [resolveFrame, Target.ofRaw_nowhere settings h]
  rfl

end Retrace

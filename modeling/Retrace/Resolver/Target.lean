import Retrace.Path.Local
import Retrace.Settings.Basic
import Retrace.SourceMap.Reference

/-!
# Targets

Where the code of a raw frame is, as `TraceResolver.classify` decides it: in a served file if its
location is a URL of the web, in a local file otherwise, and nowhere without a location or a line.

* `Target`, `Target.ofRaw`.

Main statement: `ofRaw_nowhere`.
-/

namespace Retrace

/-- Where the code of a frame is. -/
inductive Target
  | nowhere
  /-- In a file below the root that files are served from. -/
  | served (root file : Path)
  /-- The location is served, but leads out of the root. -/
  | outside (cause : PathFault)
  /-- In a local file, with the location to show. -/
  | stored (file : Path) (shown : Text)
  deriving DecidableEq

namespace Target

/-- The kind of a target. -/
def kind : Target → TargetKind
  | nowhere => .empty
  | served .. => .bundle
  | outside _ => .bundle
  | stored .. => .file

/-- The file of a target. -/
def file? : Target → Option Path
  | nowhere => none
  | served _ file => some file
  | outside _ => none
  | stored file _ => some file

/-- The location to show for a raw frame with a target. -/
def shownFile (raw : RawFrame) : Target → Text
  | nowhere => []
  | served .. => raw.file
  | outside _ => raw.file
  | stored _ shown => shown

/-- The target of a raw frame with a location, by a way of resolving paths. -/
def ofLocationBy (resolve : Path → Except LinkFault Path) (settings : Settings) (location : Text) :
    Except Failure Target := do
  let url ← splitUrl location
  if url.isWeb then
    let root ← (settings.publicRootBy resolve).mapError .ofLink
    match joinUnderBy resolve root url.path with
    | .ok file => .ok (served root file)
    | .error (.outside urlPath) => .ok (outside (.outside urlPath))
    | .error (.unresolved fault) => .error (.ofLink fault)
  else
    let shown := localPath location
    let root ← (settings.workingRootBy resolve).mapError .ofLink
    .ok (stored (root.join (.ofText shown)) shown)

/-- The target of a raw frame, by a way of resolving paths. -/
def ofRawBy (resolve : Path → Except LinkFault Path) (settings : Settings) (raw : RawFrame) :
    Except Failure Target :=
  if raw.file.isEmpty || raw.line.isNone then .ok nowhere
  else ofLocationBy resolve settings raw.file

/-- The target of a raw frame with a location. -/
def ofLocation (settings : Settings) (location : Text) : Except Failure Target :=
  ofLocationBy Path.resolve settings location

/-- The target of a raw frame. -/
def ofRaw (settings : Settings) (raw : RawFrame) : Except Failure Target :=
  ofRawBy Path.resolve settings raw

/-- A frame without a location has no target. -/
theorem ofRaw_nowhere (settings : Settings) {raw : RawFrame} (h : raw.file = []) :
    ofRaw settings raw = .ok nowhere := by
  simp [ofRaw, ofRawBy, h]

/-- What is worth noting about a target. -/
def events (raw : RawFrame) : Target → List Event
  | outside cause => [.frameOutside raw.file cause]
  | _ => []

end Target

end Retrace

import Retrace.Failure

/-!
# Events

What the library notes while it works: each event with a name (`LogEventNames`), a level and fields
of its own.
-/

namespace Retrace

/-- How grave an event is, from least to most. -/
inductive Level
  | debug
  | info
  | warning
  | error
  | critical
  deriving DecidableEq

namespace Level

/-- The levels from least to most grave. -/
def all : List Level := [.debug, .info, .warning, .error, .critical]

/-- The name of a level. -/
def label : Level → String
  | .debug => "debug"
  | .info => "info"
  | .warning => "warning"
  | .error => "error"
  | .critical => "critical"

/-- The name of a level as settings give it. -/
def settingName : Level → String
  | .debug => "DEBUG"
  | .info => "INFO"
  | .warning => "WARNING"
  | .error => "ERROR"
  | .critical => "CRITICAL"

/-- The place of a level among all. -/
def rank : Level → Nat
  | .debug => 0
  | .info => 1
  | .warning => 2
  | .error => 3
  | .critical => 4

end Level

/-- What the location of a frame leads to. -/
inductive TargetKind
  /-- A file that is served to the web. -/
  | bundle
  /-- A file of the file system. -/
  | file
  /-- Nothing. -/
  | empty
  deriving DecidableEq

/-- The name of a kind of target. -/
def TargetKind.label : TargetKind → String
  | .bundle => "bundle"
  | .file => "local"
  | .empty => "empty"

/-- Something worth noting. -/
inductive Event
  | stackLineRejected (line : Nat) (reason : Rejection)
  | stackParsed (frames lines : Nat)
  | recordRejected (index : Nat) (reason : Rejection)
  | cacheHit (path : Path)
  | cacheMiss (path : Path)
  | fileNotFound (path : Path)
  | pathNotFile (path : Path)
  | fileRefused (path : Path) (errno : Nat)
  | sourceMapNotFound (bundle : Path)
  | sourceMapDecoded (bundle : Path) (sources : Nat)
  | sourceMapFailed (bundle : Path) (inline : Bool) (cause : Failure)
  | sourceMapNoEntry (file : Text) (line : Option Int)
  | traceResolving (frames : Nat)
  | traceResolved (frames snippets : Nat)
  | frameUnresolved (file : Text) (kind : TargetKind)
  | frameOutside (file : Text) (cause : PathFault)
  | sourceMissing (source : Text)
  | reportBuilt (errorName : Text) (frames : Nat)
  | timedOut (limit : Json)

namespace Event

/-- The name of an event. -/
def name : Event → String
  | .stackLineRejected .. => "stack_line_rejected"
  | .stackParsed .. => "stack_parsed"
  | .recordRejected .. => "frame_record_rejected"
  | .cacheHit _ => "cache_hit"
  | .cacheMiss _ => "cache_miss"
  | .fileNotFound _ => "file_not_found"
  | .pathNotFile _ => "path_not_a_file"
  | .fileRefused .. => "file_read_failed"
  | .sourceMapNotFound _ => "sourcemap_not_found"
  | .sourceMapDecoded .. => "sourcemap_decoded"
  | .sourceMapFailed .. => "sourcemap_decode_failed"
  | .sourceMapNoEntry .. => "sourcemap_no_entry"
  | .traceResolving _ => "trace_resolving"
  | .traceResolved .. => "trace_resolved"
  | .frameUnresolved .. => "frame_unresolved"
  | .frameOutside .. => "frame_unresolved"
  | .sourceMissing _ => "original_source_missing"
  | .reportBuilt .. => "report_built"
  | .timedOut _ => "operation_timeout"

/-- The level of an event. -/
def level : Event → Level
  | .fileRefused .. => .error
  | .sourceMapFailed .. => .warning
  | .frameOutside .. => .warning
  | .timedOut _ => .warning
  | .traceResolving _ => .info
  | .traceResolved .. => .info
  | .reportBuilt .. => .info
  | _ => .debug

/-- A field with a text. -/
def textField (key : String) (value : Text) : Text × Json := (key.toList, .str value)

/-- A field with a count. -/
def countField (key : String) (value : Nat) : Text × Json := (key.toList, .int value)

/-- The fields of an event. -/
def fields : Event → Json.Fields
  | .stackLineRejected line reason =>
    [countField "line_number" line, textField "reason" reason.message.toList]
  | .stackParsed frames lines =>
    [countField "frames_count" frames, countField "lines_count" lines]
  | .recordRejected index reason =>
    [countField "index" index, textField "reason" reason.message.toList]
  | .cacheHit path => [textField "path" path.toText]
  | .cacheMiss path => [textField "path" path.toText]
  | .fileNotFound path => [textField "path" path.toText]
  | .pathNotFile path => [textField "path" path.toText]
  | .fileRefused path errno =>
    [textField "path" path.toText, textField "error" (errnoMessage path errno).toList]
  | .sourceMapNotFound bundle => [textField "bundle" bundle.toText]
  | .sourceMapDecoded bundle sources =>
    [textField "bundle" bundle.toText, countField "sources_count" sources]
  | .sourceMapFailed bundle inline cause =>
    [textField "bundle" bundle.toText, ("inline".toList, .bool inline),
      textField "error" cause.message.toList]
  | .sourceMapNoEntry file line =>
    [textField "file" file, ("line".toList, (line.map Json.int).getD .null)]
  | .traceResolving frames => [countField "frames_count" frames]
  | .traceResolved frames snippets =>
    [countField "frames_count" frames, countField "snippets_count" snippets]
  | .frameUnresolved file kind =>
    [textField "file" file, textField "kind" kind.label.toList]
  | .frameOutside file cause =>
    [textField "file" file, textField "error" cause.message.toList]
  | .sourceMissing source => [textField "source" source]
  | .reportBuilt errorName frames =>
    [textField "error_name" errorName, countField "frames_count" frames]
  | .timedOut limit => [("timeout".toList, limit)]

end Event

end Retrace

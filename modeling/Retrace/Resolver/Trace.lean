import Retrace.Frame.Stack
import Retrace.Pool.Course
import Retrace.Resolver.Basic

/-!
# Resolving traces

All frames of a stack, of records, or of a list of raw frames, resolved together and given in their
order: `resolve`, `resolve_records` and `resolve_frames`.

* `Reader`: what is read from a source of raw frames, and what is noted about it;
* `resolveFrames`, `resolveReader`: the frames under a course, or nothing if time was up before.
-/

namespace Retrace

/-- What a source of raw frames gives: events worth noting, and the raw frames. -/
structure Reader where
  events : List Event
  raws : Except Failure (List RawFrame)

namespace Reader

/-- The raw frames of a stack. An empty stack has none and is not worth noting. -/
def ofStack (stack : Text) : Reader :=
  if stack.isEmpty then ⟨[], .ok []⟩
  else
    let sifted := Sifted.ofStack stack
    let rejections := sifted.rejections.map fun (line, reason) => .stackLineRejected line reason
    match sifted.outcome with
    | .ok raws =>
      ⟨rejections ++ [.stackParsed raws.length (Sifted.frameLines stack).length], .ok raws⟩
    | .error fault => ⟨rejections, .error (.numeral fault)⟩

/-- The raw frames of records. -/
def ofRecords (records : List Json) : Reader :=
  let sifted := Sifted.ofRecords records
  ⟨sifted.rejections.map fun (index, reason) => .recordRejected index reason,
    sifted.outcome.mapError .numeral⟩

/-- Raw frames that are given. -/
def ofRaws (raws : List RawFrame) : Reader := ⟨[], .ok raws⟩

end Reader

/-- How many of the frames show code. -/
def snippetCount (frames : List Frame) : Nat := frames.countP fun frame => !frame.code.isEmpty

/-- The frames of raw frames, in their order. -/
def resolveFrames (settings : Settings) (disk : Disk) (s : Shared) (raws : List RawFrame)
    (course : Course) : Shared × Option (Except Failure (List Frame)) :=
  let pool := Pool.start settings.run.maxConcurrent s.journal.context
    (raws.map (resolveFrame settings))
  match pool.run disk (s.note (.traceResolving raws.length)) course with
  | (s, some (.ok frames)) =>
    (s.note (.traceResolved frames.length (snippetCount frames)), some (.ok frames))
  | (s, outcome) => (s, outcome)

/-- The frames of a source of raw frames. -/
def resolveReader (settings : Settings) (disk : Disk) (s : Shared) (reader : Reader) :
    Course → Shared × Option (Except Failure (List Frame))
  | .untouched => (s, none)
  | course =>
    let s := s.noteAll reader.events
    match reader.raws with
    | .ok raws => resolveFrames settings disk s raws course
    | .error failure => (s, some (.error failure))

end Retrace

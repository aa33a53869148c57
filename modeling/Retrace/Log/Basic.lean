import Retrace.Journal.Basic
import Retrace.Log.Pattern
import Retrace.Settings.Basic
import Retrace.Text.Case

/-!
# The log

What becomes of events once `configure_logging` has set the log up: those of the level of the log or
graver are written as lines, to the console and to a file if there is one. A line has the fields of
its event, the bound fields that the event does not hide, the name of the logger, the level, and the
name and version of the library. Some names of fields are kept for what a line says of itself.

* `LogSetup`, `LogSetup.ofNames`: how the log is set up;
* `Log`, `Log.configure`, `Log.bind`, `Log.unbind`, `Log.clear`;
* `Log.write`, `Log.writeEvent`: the lines of an event.

Main statements: `writes_iff`, which events are written, and `write_context`, writing leaves the
bound fields as they are.
-/

namespace Retrace

/-! ### Setting up -/

/-- How the log is set up: what is written, how, and to which file. -/
structure LogSetup where
  level : Level
  format : LogFormat
  file : Option Path

/-- A name that a log cannot be set up by. -/
inductive LogNameFault
  | level (name : Text)
  | format (name : Text)
  deriving DecidableEq

/-- The wording of a fault. -/
def LogNameFault.message : LogNameFault → String
  | .level name => String.ofList name.quoted ++ " is not a valid LogLevel"
  | .format name => String.ofList name.quoted ++ " is not a valid LogFormat"

/-- The level of a name in upper case. -/
def Level.ofName? (name : Text) : Option Level :=
  Level.all.find? fun level => level.settingName.toList = name

/-- The format of a name in lower case. -/
def LogFormat.ofName? (name : Text) : Option LogFormat :=
  [LogFormat.json, .console].find? fun format => format.label.toList = name

namespace LogSetup

/-- The setup by the names of a level and a format, in any case. -/
def ofNames (level format : Text) (file : Option Path) : Except LogNameFault LogSetup :=
  match Level.ofName? level.upperCase with
  | none => .error (.level level.upperCase)
  | some level =>
    match LogFormat.ofName? format.lowerCase with
    | none => .error (.format format.lowerCase)
    | some format => .ok ⟨level, format, file⟩

/-- The setup that settings ask for. -/
def ofSettings (settings : LogSettings) : LogSetup :=
  ⟨settings.level, settings.format, if settings.file.enabled then some settings.file.path else none⟩

end LogSetup

/-! ### Lines -/

/-- A line of the log: an object, or a line for people. -/
inductive LogLine
  | record (fields : Json.Fields)
  | console

/-- Fields with the name and the version of the library. -/
def stamped (fields : Json.Fields) : Json.Fields :=
  Json.Fields.put "version".toList (.str ownComponent.2.version)
    (Json.Fields.put "service".toList (.str ownComponent.1) fields)

/-- The names of fields that no line has of an event: in their place stand the time of the line, and
where in a program it was written. -/
def hiddenFields : List Text := ["timestamp", "exc_info", "stack_info"].map String.toList

/-- The fields of the line of an event but for its time. -/
def lineFields (context : Json.Fields) (logger : Text) (level : Level) (event : Text)
    (fields : Json.Fields) : Json.Fields :=
  let own := Json.Fields.put "event".toList (.str event) fields
  let all := hiddenFields.foldl (fun all name => Json.Fields.remove name all)
    (stamped (Json.Fields.merge context own))
  Json.Fields.put "level".toList (.str level.label.toList)
    (Json.Fields.put "logger".toList (.str logger) all)

/-- A line in a format. -/
def LogFormat.line (format : LogFormat) (fields : Json.Fields) : LogLine :=
  match format with
  | .json => .record fields
  | .console => .console

/-! ### Logs -/

/-- A log file and its lines. -/
abbrev LogFile := Path × List LogLine

/-- The log: how it is set up, if it is, the bound fields, and the log files there are. -/
structure Log where
  setup : Option LogSetup
  context : Json.Fields
  files : List LogFile

namespace Log

/-- The log before it is set up. -/
def empty : Log := ⟨none, [], []⟩

/-- The lines of a log file, if there is one. -/
def linesOf? (log : Log) (path : Path) : Option (List LogLine) :=
  (log.files.find? fun file => file.1 = path).map (·.2)

/-- Whether a log file can be at a path: no file stands above it, and it is no directory. -/
def canHold (log : Log) (path : Path) : Bool :=
  !path.parts.isEmpty
    && log.files.all fun file => file.1 = path || !(path.isUnder file.1 || file.1.isUnder path)

/-- The log with lines added to a log file. -/
def append (log : Log) (path : Path) (lines : List LogLine) : Log :=
  if (log.linesOf? path).isSome then
    { log with
      files := log.files.map fun file => if file.1 = path then (path, file.2 ++ lines) else file }
  else { log with files := log.files ++ [(path, lines)] }

/-- The log set up anew. A file that cannot be is left out of the setup. -/
def configure (log : Log) (setup : LogSetup) : Log :=
  match setup.file with
  | none => { log with setup := some setup }
  | some path =>
    if log.canHold path then { log.append path [] with setup := some setup }
    else { log with setup := some { setup with file := none } }

/-- The log with fields bound. -/
def bind (log : Log) (fields : Json.Fields) : Log :=
  { log with context := Json.Fields.merge log.context fields }

/-- The log without some bound fields. -/
def unbind (log : Log) (keys : List Text) : Log :=
  { log with context := keys.foldl (fun all key => Json.Fields.remove key all) log.context }

/-- The log without bound fields. -/
def clear (log : Log) : Log := { log with context := [] }

/-- Whether an event of a level is written. -/
def writes (log : Log) (level : Level) : Bool :=
  log.setup.any fun setup => setup.level.rank ≤ level.rank

/-- The lines of an event; nothing before the log is set up. -/
def linesFor (log : Log) (logger : Text) (level : Level) (event : Text) (fields : Json.Fields) :
    List LogLine :=
  match log.setup with
  | none => []
  | some setup =>
    if log.writes level then [setup.format.line (lineFields log.context logger level event fields)]
    else []

/-- The log with lines added to its file. -/
def keep (log : Log) (lines : List LogLine) : Log :=
  match log.setup.bind (·.file) with
  | none => log
  | some path => log.append path lines

/-- An event written, with its lines. -/
def writeEvent (log : Log) (logger : Text) (level : Level) (event : Text) (fields : Json.Fields) :
    Log × List LogLine :=
  let lines := log.linesFor logger level event fields
  (log.keep lines, lines)

/-- An event written whose name is a pattern for values, with its lines. The pattern is filled only
if the event is written. -/
def write (log : Log) (logger : Text) (level : Level) (pattern : Text) (values : List Json)
    (fields : Json.Fields) : Except PatternFault (Log × List LogLine) :=
  if log.writes level then
    match fillPattern pattern values with
    | .ok event => .ok (log.writeEvent logger level event fields)
    | .error fault => .error fault
  else .ok (log, [])

/-- Events of the library written in order, with their lines. -/
def writeAll (log : Log) (logger : Text) : List Event → Log × List LogLine
  | [] => (log, [])
  | event :: rest =>
    let first := log.writeEvent logger event.level event.name.toList event.fields
    let others := writeAll first.1 logger rest
    (others.1, first.2 ++ others.2)

/-- The events that are written are those of the level of the log or graver. -/
theorem writes_iff (log : Log) (level : Level) :
    log.writes level = true ↔ ∃ setup, log.setup = some setup ∧ setup.level.rank ≤ level.rank := by
  simp [writes, Option.any_eq_true]

theorem context_append (log : Log) (path : Path) (lines : List LogLine) :
    (log.append path lines).context = log.context := by
  unfold append
  split <;> rfl

/-- Writing leaves the bound fields as they are. -/
theorem write_context (log : Log) (logger : Text) (level : Level) (event : Text)
    (fields : Json.Fields) :
    (log.writeEvent logger level event fields).1.context = log.context := by
  unfold writeEvent keep
  split
  · rfl
  · exact context_append _ _ _

end Log

end Retrace

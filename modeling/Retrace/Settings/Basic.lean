import Retrace.Journal.Event
import Retrace.Path.Served

/-!
# Settings

What can be set (`RekindleConfig`): where files are looked up, how large a snippet is, how much is
done at a time and how long it may take, what is logged, and which components a report names besides
its own.

* `Settings`, `Settings.default`;
* `Settings.workingRoot`, `Settings.publicRoot`: the directories of local and of served files.
-/

namespace Retrace

/-- How log lines are written. -/
inductive LogFormat
  | json
  | console
  deriving DecidableEq

/-- The name of a log format. -/
def LogFormat.label : LogFormat → String
  | .json => "json"
  | .console => "console"

/-- A component that a report names: its version, and where it is documented. -/
structure Component where
  version : Text
  docs : Text
  deriving DecidableEq

/-- The component that the library itself is. -/
def ownComponent : Text × Component :=
  ("rekindle".toList, ⟨"0.1.0".toList, "https://pypi.org/project/rekindle/".toList⟩)

/-- Where the locations of frames are looked up. -/
structure PathSettings where
  workingDir : Path
  publicDir : Path

/-- How much is done at a time, and how long it may take in seconds. -/
structure RunSettings where
  maxConcurrent : Nat
  resolutionTimeout : Binary64

/-- Whether there is a log file, and where. -/
structure LogFileSettings where
  enabled : Bool
  path : Path

/-- What is logged, and how. -/
structure LogSettings where
  level : Level
  format : LogFormat
  file : LogFileSettings

/-- All that can be set. -/
structure Settings where
  paths : PathSettings
  contextLines : Nat
  run : RunSettings
  log : LogSettings
  components : List (Text × Component)

/-- The settings of paths unless others are given. -/
def PathSettings.default : PathSettings := ⟨⟨.none, []⟩, ⟨.none, ["public".toList]⟩⟩

/-- The settings of a run unless others are given. -/
def RunSettings.default : RunSettings := ⟨8, .ofInt 30⟩

/-- The settings of a log file unless others are given. -/
def LogFileSettings.default : LogFileSettings := ⟨false, ⟨.none, ["rekindle.log".toList]⟩⟩

/-- The settings of the log unless others are given. -/
def LogSettings.default : LogSettings := ⟨.info, .console, .default⟩

namespace Settings

/-- The number of lines on each side of a snippet unless another is given. -/
def defaultContextLines : Nat := 10

/-- The settings unless others are given. -/
def default : Settings := ⟨.default, defaultContextLines, .default, .default, []⟩

/-- The directory of local files, by a way of resolving paths. -/
def workingRootBy (resolve : Path → Except LinkFault Path) (settings : Settings) :
    Except LinkFault Path :=
  resolve settings.paths.workingDir

/-- The directory of served files, by a way of resolving paths. -/
def publicRootBy (resolve : Path → Except LinkFault Path) (settings : Settings) :
    Except LinkFault Path := do
  resolve ((← settings.workingRootBy resolve).join settings.paths.publicDir)

/-- The directory of local files. -/
def workingRoot (settings : Settings) : Except LinkFault Path := settings.workingRootBy Path.resolve

/-- The directory of served files. -/
def publicRoot (settings : Settings) : Except LinkFault Path := settings.publicRootBy Path.resolve

end Settings

end Retrace

import Retrace.Settings.Basic
import Retrace.Settings.Value

/-!
# Sections of settings

The settings as a table of sections, each checked as its model (`PathsConfig`, `SnippetConfig`, …)
checks it. An entry that a section does not know is left out, and an entry that is not there is
taken from the default.

* `PathSettings.ofDatum`, `Settings.contextLinesOfDatum`, `RunSettings.ofDatum`,
  `LogSettings.ofDatum`, `Component.ofDatum`, `componentsOfDatum`: a section from a datum;
* `PathSettings.toDatum`, …: the datum of a section;
* `Settings.ofEntries`: all settings from their table.

Main statement: `Component.ofDatum_toDatum`.
-/

namespace Retrace

/-- The entries of a table of data. -/
abbrev Entries := List (Datum × Datum)

/-- The check of the value of an entry, or another value if there is no entry. -/
def entryOr {α : Type} (entries : Entries) (name : String) (other : α) (check : Datum → Checked α) :
    Checked α :=
  match Datum.get? name.toList entries with
  | some value => (check value).under (.name name.toList)
  | none => .ok other

/-- The check of the value of an entry that has to be there. -/
def entry {α : Type} (entries : Entries) (name : String) (check : Datum → Checked α) : Checked α :=
  match Datum.get? name.toList entries with
  | some value => (check value).under (.name name.toList)
  | none => .error [⟨[.name name.toList], .missing⟩]

/-- The check of a section of the given name. -/
def sectionOf {α : Type} (name : String) (check : Entries → Checked α) : Datum → Checked α
  | .table entries => check entries
  | _ => .error [⟨[], .notSection name⟩]

/-- A table of values by name. -/
def tableOf (fields : List (String × Datum)) : Datum :=
  .table (fields.map fun field => (.str field.1.toList, field.2))

/-! ### Paths -/

namespace PathSettings

/-- The check of the entries of the section on paths. -/
def ofEntries (entries : Entries) : Checked PathSettings :=
  (Checked.both
    (entryOr entries "working_dir" default.workingDir fun d => .ofExcept d.path)
    (entryOr entries "public_dir" default.publicDir fun d => .ofExcept d.path)).map
    fun (workingDir, publicDir) => ⟨workingDir, publicDir⟩

/-- The check of the section on paths. -/
def ofDatum : Datum → Checked PathSettings := sectionOf "PathsConfig" ofEntries

/-- The section on paths as a datum. -/
def toDatum (paths : PathSettings) : Datum :=
  tableOf [("working_dir", .str paths.workingDir.toText),
    ("public_dir", .str paths.publicDir.toText)]

end PathSettings

/-! ### Snippets -/

namespace Settings

/-- The greatest number of lines on each side of a snippet. -/
def mostContextLines : Nat := 100

/-- The check of the entries of the section on snippets. -/
def contextLinesOfEntries (entries : Entries) : Checked Nat :=
  entryOr entries "context_lines" defaultContextLines fun d =>
    .ofExcept (d.wholeWithin 1 mostContextLines)

/-- The check of the section on snippets. -/
def contextLinesOfDatum : Datum → Checked Nat := sectionOf "SnippetConfig" contextLinesOfEntries

/-- The section on snippets as a datum. -/
def contextLinesToDatum (lines : Nat) : Datum := tableOf [("context_lines", .int lines)]

end Settings

/-! ### Runs -/

namespace RunSettings

/-- The greatest number of frames that are resolved at a time. -/
def mostConcurrent : Nat := 64

/-- The greatest number of seconds that a trace may take. -/
def mostSeconds : Nat := 600

/-- The check of the entries of the section on runs. -/
def ofEntries (entries : Entries) : Checked RunSettings :=
  (Checked.both
    (entryOr entries "max_concurrent" default.maxConcurrent fun d =>
      .ofExcept (d.wholeWithin 1 mostConcurrent))
    (entryOr entries "resolution_timeout" default.resolutionTimeout fun d =>
      .ofExcept (d.decimalUpTo mostSeconds))).map
    fun (maxConcurrent, resolutionTimeout) => ⟨maxConcurrent, resolutionTimeout⟩

/-- The check of the section on runs. -/
def ofDatum : Datum → Checked RunSettings := sectionOf "RuntimeConfig" ofEntries

/-- The section on runs as a datum. -/
def toDatum (run : RunSettings) : Datum :=
  tableOf [("max_concurrent", .int run.maxConcurrent),
    ("resolution_timeout", .float run.resolutionTimeout)]

end RunSettings

/-! ### The log -/

namespace LogFileSettings

/-- The check of the entries of the section on the log file. -/
def ofEntries (entries : Entries) : Checked LogFileSettings :=
  (Checked.both
    (entryOr entries "enabled" default.enabled fun d => .ofExcept d.truth)
    (entryOr entries "path" default.path fun d => .ofExcept d.path)).map
    fun (enabled, path) => ⟨enabled, path⟩

/-- The check of the section on the log file. -/
def ofDatum : Datum → Checked LogFileSettings := sectionOf "FileLoggingConfig" ofEntries

end LogFileSettings

namespace LogSettings

/-- The check of the entries of the section on the log. -/
def ofEntries (entries : Entries) : Checked LogSettings :=
  (Checked.both
    (entryOr entries "level" default.level fun d =>
      .ofExcept (d.choice Level.all Level.settingName))
    (Checked.both
      (entryOr entries "format" default.format fun d =>
        .ofExcept (d.choice [.json, .console] LogFormat.label))
      (entryOr entries "file" default.file LogFileSettings.ofDatum))).map
    fun (level, format, file) => ⟨level, format, file⟩

/-- The check of the section on the log. -/
def ofDatum : Datum → Checked LogSettings := sectionOf "LoggingConfig" ofEntries

end LogSettings

/-! ### Components -/

namespace Component

/-- Whether a link leads to the web. -/
def isWebLink (link : Text) : Bool :=
  Text.startsWith "http://".toList link || Text.startsWith "https://".toList link

/-- The link to documentation that a datum is used as. -/
def linkOf (datum : Datum) : Except ValueFlaw Text :=
  match datum.text with
  | .ok link => if isWebLink link then .ok link else .error (.badLink link)
  | .error flaw => .error flaw

/-- The check of the entries of a component. -/
def ofEntries (entries : Entries) : Checked Component :=
  (Checked.both (entry entries "version" fun d => .ofExcept d.text)
    (entry entries "docs" fun d => .ofExcept (linkOf d))).map
    fun (version, docs) => ⟨version, docs⟩

/-- The check of a component. -/
def ofDatum : Datum → Checked Component := sectionOf "MetaItemConfig" ofEntries

/-- A component as a datum. -/
def toDatum (component : Component) : Datum :=
  tableOf [("version", .str component.version), ("docs", .str component.docs)]

/-- A component is read back, if its link leads to the web. -/
theorem ofDatum_toDatum {component : Component} (h : isWebLink component.docs = true) :
    ofDatum component.toDatum = .ok component := by
  have hversion : Datum.get? "version".toList
      [(.str "version".toList, .str component.version), (.str "docs".toList, .str component.docs)]
      = some (.str component.version) := rfl
  have hdocs : Datum.get? "docs".toList
      [(.str "version".toList, .str component.version), (.str "docs".toList, .str component.docs)]
      = some (.str component.docs) := rfl
  simp only [ofDatum, toDatum, tableOf, sectionOf, ofEntries, entry, List.map_cons, List.map_nil,
    hversion, hdocs, Datum.text, linkOf, h, if_true, Checked.ofExcept, Checked.under, Checked.both,
    Except.map]

end Component

/-- The step to the value of a key. -/
def stepOf (key : Datum) : PlaceStep :=
  match key with
  | .str t => .name t
  | .null => .name "None".toList
  | .bool b => .number (if b then 1 else 0)
  | .int n =>
    if -(Datum.wholeBound : Int) ≤ n ∧ n < Datum.wholeBound then .number n else .name (intText n)
  | .float x => .name x.text
  | .bytes b => .name (Text.quotedBytes b)
  | .moment m => .name m.literal.toList
  | .list _ => .name []
  | .table _ => .name []
  | .other _ => .name []

/-- The name of a component from the key of its entry. -/
def componentName (key : Datum) : Checked Text :=
  (Checked.ofExcept key.text).under (.name "[key]".toList)

/-- The check of a component under its name. -/
def componentEntry (entry : Datum × Datum) : Checked (Text × Component) :=
  (Checked.both (componentName entry.1) (Component.ofDatum entry.2)).under (stepOf entry.1)

/-- The check of components by name. -/
def componentsOfDatum : Datum → Checked (List (Text × Component))
  | .table entries => Checked.all (entries.map componentEntry)
  | _ => .error [⟨[], .notTable⟩]

/-- Components by name as a datum. -/
def componentsToDatum (components : List (Text × Component)) : Datum :=
  .table (components.map fun named => (.str named.1, named.2.toDatum))

/-! ### All settings -/

namespace Settings

/-- The check of the table of all sections. -/
def ofEntries (entries : Entries) : Checked Settings :=
  (Checked.both (entryOr entries "paths" default.paths PathSettings.ofDatum)
    (Checked.both (entryOr entries "snippet" default.contextLines contextLinesOfDatum)
      (Checked.both (entryOr entries "runtime" default.run RunSettings.ofDatum)
        (Checked.both (entryOr entries "logging" default.log LogSettings.ofDatum)
          (entryOr entries "meta" default.components componentsOfDatum))))).map
    fun (paths, contextLines, run, log, components) => ⟨paths, contextLines, run, log, components⟩

end Settings

end Retrace

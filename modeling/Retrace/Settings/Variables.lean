import Retrace.Json.Parser
import Retrace.Settings.Section
import Retrace.Text.Case

/-!
# Settings from variables

The part of `BaseSettings` that looks at variables. The variables of the environment whose names
start with `REKINDLE_`, in any case, are settings. A variable that is named for a section holds all
of it as JSON; one that goes on with two underscores and names from there holds a single value, as a
text or, where a table stands, as JSON. Of two that meet the single value counts, and of two of one
kind the later.

* `Shape`, `settingsShape`: the tables there are, for a value may be a table of its own;
* `VariableTarget`: what a name leads to, and how the text of a variable counts there;
* `sectionsOfVariables`: the table of the sections that variables give.
-/

namespace Retrace

/-- Variables by name. -/
abbrev Variables := List (Text × Text)

/-- The shape of a value of the settings. -/
inductive Shape
  | value
  | record (fields : List (String × Shape))
  /-- A table with any keys, whose values are records with the given fields. -/
  | catalogue (fields : List (String × Shape))

namespace Shape

/-- The field of a record by name, in any case. -/
def field? (name : Text) (fields : List (String × Shape)) : Option (String × Shape) :=
  fields.find? fun field => field.1.toList = name.lowerCase

/-- A record of values. -/
def ofNames (names : List String) : List (String × Shape) := names.map fun name => (name, .value)

end Shape

/-- The sections of the settings in order. -/
def settingsShape : List (String × Shape) := [
    ("paths", .record (Shape.ofNames ["working_dir", "public_dir"])),
    ("snippet", .record (Shape.ofNames ["context_lines"])),
    ("runtime", .record (Shape.ofNames ["max_concurrent", "resolution_timeout"])),
    ("logging", .record
      [("level", .value), ("format", .value),
        ("file", .record (Shape.ofNames ["enabled", "path"]))]),
    ("meta", .catalogue (Shape.ofNames ["version", "docs"]))]

/-- What names lead to: a value of a shape, a record in a catalogue, or something unknown. -/
inductive VariableTarget
  | field (shape : Shape)
  | item (fields : List (String × Shape))
  | unknown

namespace VariableTarget

/-- What a name leads to from a target. -/
def next (name : Text) : VariableTarget → VariableTarget
  | .field (.record fields) => ofField (Shape.field? name fields)
  | .field (.catalogue fields) =>
    match Shape.field? name fields with
    | some found => .field found.2
    | none => .item fields
  | .item fields => ofField (Shape.field? name fields)
  | _ => .unknown
where
  /-- The target that a field is. -/
  ofField : Option (String × Shape) → VariableTarget
    | some found => .field found.2
    | none => .unknown

/-- The value of a variable's text: as JSON, or the text itself where that is no JSON. -/
def lenient (t : Text) : Datum :=
  match Json.parse t with
  | .ok json => .ofJson json
  | .error _ => .str t

/-- The value that a variable holds for a target, or nothing if it has to be JSON and is not.
`catalogued` says whether the target lies in a catalogue, where tables may be anywhere. -/
def value? (catalogued : Bool) (t : Text) : VariableTarget → Option Datum
  | .field .value => some (.str t)
  | .field _ =>
    if t.isEmpty then some (.str t)
    else
      match Json.parse t with
      | .ok json => some (.ofJson json)
      | .error _ => none
  | .item _ => some (if t.isEmpty then .str t else lenient t)
  | .unknown => some (if catalogued && !t.isEmpty then lenient t else .str t)

end VariableTarget

/-- The pieces of a name between double underscores. -/
def nameParts : Text → List Text
  | [] => [[]]
  | '_' :: '_' :: rest => [] :: nameParts rest
  | c :: rest =>
    match nameParts rest with
    | [] => [[c]]
    | part :: others => (c :: part) :: others

/-- A datum with a value set under names, through tables that are made where there is nothing. -/
def Datum.setAt (value : Datum) : List Text → Datum → Datum
  | [], _ => value
  | name :: more, .table entries =>
    let below := (Datum.get? name entries).getD (.table [])
    .table (Datum.put (.str name) (Datum.setAt value more below) entries)
  | _ :: _, datum => datum

/-- The start of the names of variables that are settings. -/
def variableStart : Text := "rekindle_".toList

/-- Variables with their names in lower case. Of two with one name then the later counts, in the
place of the earlier. -/
def Variables.lowered (env : Variables) : Variables :=
  env.foldl (fun all named => put named.1.lowerCase named.2 all) []
where
  /-- Variables with one set. -/
  put (name value : Text) : Variables → Variables
    | [] => [(name, value)]
    | (other, old) :: rest =>
      if other = name then (other, value) :: rest else (other, old) :: put name value rest

/-- The value of a variable by name. -/
def Variables.get? (env : Variables) (name : Text) : Option Text :=
  (env.find? fun named => named.1 = name).map (·.2)

/-- The names that lead to the value of a variable from a section, and the value, for the variables
that have one. -/
def nestedVariables (start : Text) (env : Variables) : List (List Text × Text) :=
  env.filterMap fun named =>
    (Text.afterPrefix? start named.1).map fun rest => (nameParts rest, named.2)

/-- Whether a shape is a catalogue. -/
def Shape.isCatalogue : Shape → Bool
  | .catalogue _ => true
  | _ => false

/-- The table of the single values of a section, or nothing if one of them cannot be read. -/
def nestedTable? (shape : Shape) (nested : List (List Text × Text)) : Option Datum :=
  nested.foldlM (fun table (names, t) =>
    let target := names.foldl (fun target name => VariableTarget.next name target)
      (VariableTarget.field shape)
    (target.value? shape.isCatalogue t).map fun value => Datum.setAt value names table) (.table [])

mutual

/-- The fields of a record under the names that they have in its shape. -/
def properlyNamed : Shape → Datum → Datum
  | .record fields, .table entries => .table (renamedEntries fields [] entries)
  | _, datum => datum

/-- Entries under their proper names put in order over others. -/
def renamedEntries (fields : List (String × Shape)) (done : Entries) : Entries → Entries
  | [] => done
  | (key, value) :: rest =>
    let renamed : Datum × Datum :=
      match key with
      | .str name =>
        match fields.find? fun field => field.1.toList = name.lowerCase with
        | some (proper, shape) => (.str proper.toList, properlyNamed shape value)
        | none => (key, value)
      | _ => (key, value)
    renamedEntries fields (Datum.put renamed.1 renamed.2 done) rest

end

/-- What variables say on a section: nothing, a value, or what cannot be read. -/
def sectionOfVariables (env : Variables) (name : String) (shape : Shape) :
    Option (Option Datum) :=
  let start := variableStart ++ name.toList
  let nested := nestedVariables (start ++ ['_', '_']) env
  match env.get? start with
  | none =>
    match nestedTable? shape nested with
    | none => none
    | some (.table []) => some none
    | some table => some (some (properlyNamed shape table))
  | some t =>
    match Json.parse t with
    | .error _ => none
    | .ok (.obj fields) =>
      (nestedTable? shape nested).map fun table =>
        some (properlyNamed shape ((Datum.ofJson (.obj fields)).overlaid table))
    | .ok .null => some none
    | .ok json => some (some (.ofJson json))

/-- The table of the sections that variables give, or the first section on which they cannot be
read. -/
def sectionsOfVariables (env : Variables) : Except String Entries :=
  settingsShape.foldlM (fun entries (name, shape) =>
    match sectionOfVariables env.lowered name shape with
    | none => .error name
    | some none => .ok entries
    | some (some datum) => .ok (entries ++ [(.str name.toList, datum)])) []

end Retrace

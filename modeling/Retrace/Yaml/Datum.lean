import Retrace.Json.Basic
import Retrace.Text.Utf8
import Retrace.Yaml.Moment

/-!
# Data

What a text of settings says (`yaml.safe_load`): values as in JSON, bytes and moments in time,
tables with keys of any kind, and collections that have no use here.

* `Datum`, `Datum.ofJson`: data, and how they are had from JSON;
* `Datum.put`: an entry set among others;
* `Datum.overlaid`: tables put over one another.

Main statement: `get?_put_self`, an entry that is set is found.
-/

namespace Retrace

/-- A value of settings. -/
inductive Datum
  | null
  | bool (value : Bool)
  | int (value : Int)
  | float (value : Binary64)
  | str (value : Text)
  | bytes (value : Bytes)
  | moment (value : Yaml.Moment)
  | list (items : List Datum)
  | table (entries : List (Datum × Datum))
  /-- A collection without use here, and whether it counts as present. -/
  | other (present : Bool)

namespace Datum

/-- Whether a value counts as present. -/
def isPresent : Datum → Bool
  | .null => false
  | .bool value => value
  | .int value => value != 0
  | .float value => !value.isZero
  | .str value => !value.isEmpty
  | .bytes value => !value.isEmpty
  | .moment _ => true
  | .list items => !items.isEmpty
  | .table entries => !entries.isEmpty
  | .other present => present

mutual

/-- A JSON value as a datum. -/
def ofJson : Json → Datum
  | .null => .null
  | .bool value => .bool value
  | .int value => .int value
  | .float value => .float value
  | .str value => .str value
  | .arr items => .list (ofItems items)
  | .obj fields => .table (ofFields fields)

/-- JSON values as data. -/
def ofItems : List Json → List Datum
  | [] => []
  | item :: rest => ofJson item :: ofItems rest

/-- Fields of an object as entries of a table. -/
def ofFields : List (Text × Json) → List (Datum × Datum)
  | [] => []
  | (key, value) :: rest => (.str key, ofJson value) :: ofFields rest

end

/-- The whole number that a key counts as: truth values and whole decimals do. -/
def keyNumber? : Datum → Option Int
  | .bool value => some (if value then 1 else 0)
  | .int value => some value
  | .float value => value.toInt?
  | _ => none

/-- Whether two keys are the same. -/
def sameKey (a b : Datum) : Bool :=
  match keyNumber? a, keyNumber? b with
  | some m, some n => m == n
  | none, none =>
    match a, b with
    | .null, .null => true
    | .str s, .str t => s == t
    | .bytes s, .bytes t => s == t
    | .moment s, .moment t => s.same t
    | .float x, .float y => x == y && x != .nan
    | _, _ => false
  | _, _ => false

/-- Entries with one set: in its place if its key is there, else at the end. -/
def put {α : Type} (key : Datum) (value : α) : List (Datum × α) → List (Datum × α)
  | [] => [(key, value)]
  | (k, old) :: rest => if sameKey k key then (k, value) :: rest else (k, old) :: put key value rest

/-- The value of an entry by the text of its key. -/
def get? (key : Text) (entries : List (Datum × Datum)) : Option Datum :=
  (entries.find? fun entry => sameKey entry.1 (.str key)).map (·.2)

theorem sameKey_str (s t : Text) : sameKey (.str s) (.str t) = (s == t) := rfl

/-- An entry that is set is found. -/
theorem get?_put_self (key : Text) (value : Datum) (entries : List (Datum × Datum)) :
    get? key (put (.str key) value entries) = some value := by
  induction entries with
  | nil => simp [get?, put, sameKey_str]
  | cons entry rest ih =>
    obtain ⟨k, old⟩ := entry
    rw [put]
    split
    · rename_i h
      simp [get?, h]
    · rename_i h
      simpa [get?, h] using ih

mutual

/-- A value put over another: tables entry by entry, everything else in its place. -/
def overlaid (lower : Datum) : Datum → Datum
  | .table upper =>
    match lower with
    | .table entries => .table (overlaidEntries entries upper)
    | _ => .table upper
  | upper => upper

/-- Entries with others put over them. -/
def overlaidEntries (entries : List (Datum × Datum)) :
    List (Datum × Datum) → List (Datum × Datum)
  | [] => entries
  | (key, value) :: rest =>
    let below := (entries.find? fun entry => sameKey entry.1 key).map (·.2)
    let above :=
      match below with
      | some below => overlaid below value
      | none => value
    overlaidEntries (put key above entries) rest

end

end Datum

end Retrace

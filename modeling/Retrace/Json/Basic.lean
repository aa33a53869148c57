import Retrace.Number.Shortest

/-!
# JSON values

The values that `json.loads` makes: whole numbers of any size apart from doubles, and objects as
fields in order with one field a key.

* `Json.kind`: the name of a value's kind, as messages show it;
* `Json.isTruthy`: whether a value counts as present: everything but `null`, `false`, zero and the
  empty text, array and object;
* `Json.Fields.get?`, `Json.Fields.put`: reading a field and setting it;
* `Json.literal`: the text of a value, as messages show it, and `Json.written`, `Json.display`: the
  same (`repr`, `str`) where a whole number in it may be too long to write.

Main statements: `Fields.get?_put_self` and `Fields.get?_put_of_ne`.
-/

namespace Retrace

/-- A JSON value. -/
inductive Json
  | null
  | bool (value : Bool)
  | int (value : Int)
  | float (value : Binary64)
  | str (value : Text)
  | arr (items : List Json)
  | obj (fields : List (Text × Json))

namespace Json

/-- The name of a value's kind. -/
def kind : Json → String
  | .null => "NoneType"
  | .bool _ => "bool"
  | .int _ => "int"
  | .float _ => "float"
  | .str _ => "str"
  | .arr _ => "list"
  | .obj _ => "dict"

/-- Whether a value counts as present. -/
def isTruthy : Json → Bool
  | .null => false
  | .bool value => value
  | .int value => value != 0
  | .float value => !value.isZero
  | .str value => !value.isEmpty
  | .arr items => !items.isEmpty
  | .obj fields => !fields.isEmpty

/-- Fields of an object in order. -/
abbrev Fields := List (Text × Json)

namespace Fields

/-- The value under a key. -/
def get? (key : Text) : Fields → Option Json
  | [] => none
  | (k, value) :: rest => if k = key then some value else get? key rest

/-- Fields with a key set: in its place if it is there, else at the end. -/
def put (key : Text) (value : Json) : Fields → Fields
  | [] => [(key, value)]
  | (k, old) :: rest => if k = key then (k, value) :: rest else (k, old) :: put key value rest

/-- Fields without a key. -/
def remove (key : Text) (fields : Fields) : Fields := fields.filter fun field => field.1 ≠ key

/-- Fields with other fields set, in their order. -/
def merge (fields others : Fields) : Fields :=
  others.foldl (fun all field => put field.1 field.2 all) fields

theorem get?_put_self (key : Text) (value : Json) (fields : Fields) :
    get? key (put key value fields) = some value := by
  induction fields with
  | nil => simp [put, get?]
  | cons field rest ih =>
    rw [put]
    split <;> simp_all [get?]

theorem get?_put_of_ne {key other : Text} (h : other ≠ key) (value : Json) (fields : Fields) :
    get? other (put key value fields) = get? other fields := by
  induction fields with
  | nil => simp [put, get?, h.symm]
  | cons field rest ih =>
    rw [put]
    split
    · rename_i hk
      simp [get?, hk, h.symm]
    · simp [get?, ih]

/-- To set a field and remove it is to remove it. -/
theorem remove_put (key : Text) (value : Json) (fields : Fields) :
    remove key (put key value fields) = remove key fields := by
  induction fields with
  | nil => simp [put, remove]
  | cons field rest ih =>
    rw [put]
    split
    · rename_i hk
      simp [remove, hk]
    · rw [remove, List.filter_cons, ← remove, ih, remove, remove, List.filter_cons]

/-- Fields that do not have a key leave the field under it alone. -/
theorem get?_merge_of_eq_none {key : Text} {others : Fields} (h : get? key others = none)
    (fields : Fields) : get? key (merge fields others) = get? key fields := by
  induction others generalizing fields with
  | nil => rfl
  | cons field rest ih =>
    rw [get?] at h
    split at h
    · cases h
    · rename_i hk
      rw [merge, List.foldl_cons, ← merge, ih h, get?_put_of_ne (Ne.symm hk)]

end Fields

mutual

/-- The text of a value in which all whole numbers can be written. -/
def literal : Json → Text
  | .null => "None".toList
  | .bool true => "True".toList
  | .bool false => "False".toList
  | .int value => intText value
  | .float value => value.text
  | .str value => value.quoted
  | .arr items => '[' :: (Text.joined [',', ' '] (itemLiterals items) ++ [']'])
  | .obj fields => '\x7b' :: (Text.joined [',', ' '] (fieldLiterals fields) ++ ['\x7d'])

/-- The texts of values in order. -/
def itemLiterals : List Json → List Text
  | [] => []
  | item :: rest => literal item :: itemLiterals rest

/-- The texts of fields in order. -/
def fieldLiterals : List (Text × Json) → List Text
  | [] => []
  | (key, value) :: rest => (key.quoted ++ ':' :: ' ' :: literal value) :: fieldLiterals rest

end

mutual

/-- Whether all whole numbers of a value have a numeral. -/
def isWritable : Json → Bool
  | .int value => value.natAbs < numeralBound
  | .arr items => areWritable items
  | .obj fields => haveWritable fields
  | _ => true

/-- Whether all whole numbers of some values have a numeral. -/
def areWritable : List Json → Bool
  | [] => true
  | item :: rest => isWritable item && areWritable rest

/-- Whether all whole numbers of some fields have a numeral. -/
def haveWritable : List (Text × Json) → Bool
  | [] => true
  | (_, value) :: rest => isWritable value && haveWritable rest

end

/-- The text of a value. A whole number that is too long to write has none. -/
def written (value : Json) : Except NumeralFault Text :=
  if value.isWritable then .ok value.literal else .error .tooLongToWrite

/-- The text of a value inside a sentence: a text stands for itself. -/
def display : Json → Except NumeralFault Text
  | .str value => .ok value
  | other => other.written

end Json

end Retrace

import Retrace.Frame.Basic

/-!
# Frame records

Some runtimes give frames as records, with one of several keys for each part. The first key that is
there counts, whatever its value. This is `StackParser.parse_record`.

Main statement: `firstOf_eq_get?`, a key that is there hides the ones after it.
-/

namespace Retrace

/-- The keys of a part of a frame record, in order of preference. -/
structure RecordKeys where
  name : List Text
  file : List Text
  line : List Text
  column : List Text

/-- The keys of frame records. -/
def recordKeys : RecordKeys where
  name := ["functionName".toList, "function_name".toList, "name".toList]
  file := ["fileName".toList, "file_name".toList, "file".toList]
  line := ["lineNumber".toList, "line_number".toList, "line".toList]
  column := ["columnNumber".toList, "column_number".toList, "column".toList]

/-- The value under the first of the keys that is there, `null` if none is. -/
def firstOf (fields : Json.Fields) (keys : List Text) : Json :=
  (keys.findSome? fun key => Json.Fields.get? key fields).getD .null

theorem firstOf_eq_get? {fields : Json.Fields} {key : Text} {value : Json}
    (h : Json.Fields.get? key fields = some value) (others : List Text) :
    firstOf fields (key :: others) = value := by
  simp [firstOf, h]

/-- The raw frame of a record. -/
def RawFrame.ofRecord : Json → Except FrameFault RawFrame
  | .obj fields =>
    RawFrame.create (firstOf fields recordKeys.name) (firstOf fields recordKeys.file)
      (firstOf fields recordKeys.line) (firstOf fields recordKeys.column)
  | other => .error (.rejected (.notMapping other.kind))

end Retrace

import Retrace.Json.Basic
import Retrace.Text.Blank

/-!
# Frames

A raw frame is a frame of a stack as the runtime names it; a frame is one that is ready to show,
with a snippet of its source. Lines and columns count from one, the lines of a snippet from zero.

* `RawFrame.create`: a raw frame from loosely typed values (`RawFrame.create`, `_position`), which
  are checked and never converted but from a text of digits to its number;
* `Frame.unresolved`: the frame that keeps a raw location and shows no source;
* `Frame.currentIndex` (`current_index`): where in its snippet the line of a frame is.

Main statement: `currentIndex_eq_some`.
-/

namespace Retrace

/-- A frame of a stack before its location is resolved. -/
structure RawFrame where
  name : Text
  file : Text
  line : Option Int
  column : Option Int
  anonymous : Bool
  deriving DecidableEq

/-- A frame to show: a location, the lines `start` to `stop` of its source, exclusive, and their
text. -/
structure Frame where
  name : Text
  file : Text
  line : Option Int
  column : Option Int
  code : Text
  start : Option Int
  stop : Option Int
  anonymous : Bool
  deriving DecidableEq

/-- The two numbers of a position. -/
inductive PositionField
  | line
  | column
  deriving DecidableEq

/-- The name of a position field. -/
def PositionField.label : PositionField → String
  | .line => "line"
  | .column => "column"

/-- Why a line or a record is no frame. -/
inductive Rejection
  /-- The text is no line of a stack. -/
  | notFrameLine (line : Text)
  /-- The record is no object. -/
  | notMapping (kind : String)
  | nameNotText (kind : String)
  | fileNotText (kind : String)
  | positionIsBool (field : PositionField) (value : Bool)
  | positionNotNumeric (field : PositionField) (value : Text)
  | positionNotInteger (field : PositionField) (kind : String)
  | positionNotPositive (field : PositionField) (value : Int)
  /-- A file without a line in it. -/
  | lineMissing (file : Text)
  deriving DecidableEq

/-- The wording of a rejection. -/
def Rejection.message : Rejection → String
  | .notFrameLine line => "Not a stack frame line: " ++ String.ofList line.trim.quoted
  | .notMapping kind => s!"Frame record must be a mapping, got {kind}"
  | .nameNotText kind => s!"name must be a string, got {kind}"
  | .fileNotText kind => s!"file must be a string, got {kind}"
  | .positionIsBool field value =>
    s!"{field.label} must be an integer, got {String.ofList (Json.bool value).literal}"
  | .positionNotNumeric field value =>
    s!"{field.label} must be numeric, got {String.ofList value.quoted}"
  | .positionNotInteger field kind => s!"{field.label} must be an integer, got {kind}"
  | .positionNotPositive field value =>
    s!"{field.label} must be positive, got {String.ofList (intText value)}"
  | .lineMissing file => s!"Frame for {String.ofList file} has no line number"

/-- What ends the making of a frame: a rejection, or a numeral that cannot be converted. -/
inductive FrameFault
  | rejected (reason : Rejection)
  | numeral (fault : NumeralFault)
  deriving DecidableEq

/-- A number of a position, which has to be positive. -/
def positive (field : PositionField) (value : Int) : Except FrameFault Int :=
  if 1 ≤ value then .ok value
  else
    match writeInt value with
    | .error fault => .error (.numeral fault)
    | .ok _ => .error (.rejected (.positionNotPositive field value))

/-- The number of a position, if there is one. -/
def position (field : PositionField) : Json → Except FrameFault (Option Int)
  | .null => .ok none
  | .bool value => .error (.rejected (.positionIsBool field value))
  | .int value => (positive field value).map some
  | .str value =>
    if value.isEmpty || !value.all isDigit then
      .error (.rejected (.positionNotNumeric field value))
    else
      match readNumeral value with
      | .error fault => .error (.numeral fault)
      | .ok n => (positive field n).map some
  | other => .error (.rejected (.positionNotInteger field other.kind))

/-- The text of a name or a file, empty if there is none. -/
def textOr (reason : String → Rejection) : Json → Except FrameFault Text
  | .null => .ok []
  | .str value => .ok value
  | other => .error (.rejected (reason other.kind))

/-- What stands for the name of a frame that has none. -/
def anonymousName : Text := "<anonymous>".toList

/-- The raw frame with the given name, file, line and column. -/
def RawFrame.create (name file line column : Json) : Except FrameFault RawFrame := do
  let name ← textOr .nameNotText name
  let file ← textOr .fileNotText file
  let name := name.trim
  let file := file.trim
  let line ← position .line line
  let column ← position .column column
  if !file.isEmpty && line.isNone then .error (.rejected (.lineMissing file))
  else
    .ok ⟨if name.isEmpty then anonymousName else name, file, line, column, name.isEmpty⟩

namespace Frame

/-- The frame that keeps a raw location and shows no source. -/
def unresolved (raw : RawFrame) : Frame :=
  ⟨raw.name, raw.file, raw.line, raw.column, [], none, none, raw.anonymous⟩

/-- The index of the frame's own line among the lines of its snippet. -/
def currentIndex (f : Frame) : Option Int :=
  match f.start, f.stop, f.line with
  | some start, some stop, some line =>
    let index := line - 1 - start
    if 0 ≤ index ∧ index < stop - start then some index else none
  | _, _, _ => none

theorem currentIndex_eq_some {f : Frame} {i : Int} :
    f.currentIndex = some i ↔
      ∃ start stop line, f.start = some start ∧ f.stop = some stop ∧ f.line = some line ∧
        i = line - 1 - start ∧ start ≤ line - 1 ∧ line - 1 < stop := by
  unfold currentIndex
  split
  · rename_i start stop line hstart hstop hline
    simp only [hstart, hstop, hline, Option.some.injEq, exists_and_left, exists_eq_left']
    split
    · simp only [Option.some.injEq]
      omega
    · simp only [reduceCtorEq, false_iff]
      omega
  · rename_i hnone
    simp only [reduceCtorEq, false_iff]
    rintro ⟨start, stop, line, hstart, hstop, hline, -⟩
    exact hnone start stop line hstart hstop hline

end Frame

end Retrace

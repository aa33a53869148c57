import Retrace.Log.Directive

/-!
# Patterns

A pattern is a text with directives, filled by the operator `%`. A directive is a percent sign, and
then in this order, all but the last optional, a name in parentheses, flags, a width, a point and a
precision, and a letter. A star for a width or precision says that the next value is it. The values
of a row are shown by the directives one after the other; a directive with a name shows the field of
an object. Two percent signs are one.

* `Directive`, `PatternPart`, `patternParts`: reading a pattern;
* `PatternValues`, `fillPattern`: the text of a pattern with values.

Main statement: `fillPattern_of_not_mem`, a text without percent signs is shown as it is.
-/

namespace Retrace

/-- A width or a precision. -/
inductive Extent
  | absent
  | given (count : Nat)
  /-- The next value says it. -/
  | next
  deriving DecidableEq

/-- What stands between the percent sign of a directive and its letter. -/
structure Directive where
  /-- The name of the field that is shown. -/
  field : Option Text
  flags : Text
  width : Extent
  precision : Extent
  deriving DecidableEq

/-! ### Reading -/

/-- Whether a character is a flag. -/
def isPatternFlag (c : Char) : Bool := c == '#' || c == '0' || c == '-' || c == ' ' || c == '+'

/-- The number that digits write. -/
def decimalNumber (digits : Text) : Nat := digits.foldl (fun n c => 10 * n + (c.toNat - 48)) 0

/-- The extent that a text starts with, and how many characters it takes up. -/
def Extent.read : Text → Extent × Nat
  | '*' :: _ => (.next, 1)
  | t =>
    let digits := t.takeWhile Char.isDigit
    (if digits.isEmpty then .absent else .given (decimalNumber digits), digits.length)

namespace Directive

/-- The text up to the parenthesis that closes one that is open, with `depth` more open since. -/
def enclosed? (depth : Nat) : Text → Option Text
  | [] => none
  | c :: rest =>
    if c = ')' then
      match depth with
      | 0 => some []
      | depth + 1 => (enclosed? depth rest).map (c :: ·)
    else (enclosed? (if c = '(' then depth + 1 else depth) rest).map (c :: ·)

/-- The precision that a text starts with, which is zero after a point alone, and how many
characters it takes up. -/
def precisionOf : Text → Extent × Nat
  | '.' :: rest =>
    match Extent.read rest with
    | (.absent, _) => (.given 0, 1)
    | (extent, length) => (extent, length + 1)
  | _ => (.absent, 0)

/-- What a text after a percent sign and the name of a field starts with, and how many characters
it takes up. A letter for the size of numbers is passed over. -/
def readAfter (field : Option Text) (t : Text) : Directive × Nat :=
  let flags := t.takeWhile isPatternFlag
  let t := t.drop flags.length
  let (width, widthLength) := Extent.read t
  let t := t.drop widthLength
  let (precision, precisionLength) := precisionOf t
  let t := t.drop precisionLength
  let sizeLength := if t.head?.any fun c => c == 'h' || c == 'l' || c == 'L' then 1 else 0
  (⟨field, flags, width, precision⟩, flags.length + widthLength + precisionLength + sizeLength)

/-- The directive that a text after a percent sign starts with, and how many characters stand
before its letter; nothing, if the name of its field is not closed. -/
def read? (t : Text) : Option (Directive × Nat) :=
  match t with
  | '(' :: rest =>
    (enclosed? 0 rest).map fun name =>
      let (d, length) := readAfter (some name) (rest.drop (name.length + 1))
      (d, name.length + 2 + length)
  | _ => some (readAfter none t)

end Directive

/-- A part of a pattern. -/
inductive PatternPart
  | char (c : Char)
  /-- A directive, and its letter with the index of that. -/
  | directive (d : Directive) (letter : Char) (index : Nat)
  /-- A directive that the pattern ends in. -/
  | cutOff (d : Directive)
  /-- The name of a field that is not closed. -/
  | openField
  deriving DecidableEq

/-- The parts of a text that starts at an index of a pattern. -/
def patternParts (index : Nat) : Text → List PatternPart
  | [] => []
  | '%' :: '%' :: rest => .char '%' :: patternParts (index + 2) rest
  | c :: rest =>
    if c = '%' then
      match Directive.read? rest with
      | none => [.openField]
      | some (d, length) =>
        match rest.drop length with
        | [] => [.cutOff d]
        | letter :: _ =>
          .directive d letter (index + length + 1)
            :: patternParts (index + length + 2) (rest.drop (length + 1))
    else .char c :: patternParts (index + 1) rest
termination_by t => t.length
decreasing_by
  all_goals
    simp only [List.length_drop, List.length_cons]
    omega

/-! ### Filling -/

/-- The values for a pattern: a row that is used up, or the fields of an object and the value that
is next. The object is next as a whole before one of its fields is. -/
inductive PatternValues
  | row (values : List Json)
  | fields (all : Json.Fields) (next : Option Json)

namespace PatternValues

/-- The values for a directive that names a field, or does not. -/
def select (field : Option Text) (values : PatternValues) : Except PatternFault PatternValues :=
  match field, values with
  | none, values => .ok values
  | some _, row _ => .error .noFields
  | some name, fields all _ =>
    match Json.Fields.get? name all with
    | some value => .ok (fields all (some value))
    | none => .error (.noField name)

/-- The next value, and the values after it. -/
def take : PatternValues → Except PatternFault (Json × PatternValues)
  | row (value :: rest) => .ok (value, row rest)
  | fields all (some value) => .ok (value, fields all none)
  | _ => .error .tooFewValues

/-- The number of an extent, and the values after it. A number that is written is at most a
greatest one, and a number that a value says lies in the range of signed words up to that one. -/
def takeExtent (values : PatternValues) (most : Nat) (wide past : PatternFault) :
    Extent → Except PatternFault (Option Int × PatternValues)
  | .absent => .ok (none, values)
  | .given count => if most < count then .error wide else .ok (some count, values)
  | .next => do
    let (value, values) ← values.take
    match Layout.wholeNumber? value with
    | some n =>
      if (most : Int) < n ∨ n < -(most : Int) - 1 then .error past else .ok (some n, values)
    | none => .error .extentNotWhole

/-- The greatest width. -/
def mostWidth : Nat := 0x7FFFFFFFFFFFFFFF

/-- The greatest precision. -/
def mostPrecision : Nat := 0x7FFFFFFF

/-- The layout of a directive, and the values after those that it takes. A width below zero is one
on the left, and a precision below zero is zero. -/
def takeLayout (values : PatternValues) (d : Directive) :
    Except PatternFault (Layout × PatternValues) := do
  let values ← values.select d.field
  let (width, values) ← values.takeExtent mostWidth .wideWidth .pastSizes d.width
  let (precision, values) ← values.takeExtent mostPrecision .widePrecision .pastCounts d.precision
  let flags := if width.any (· < 0) then '-' :: d.flags else d.flags
  .ok (⟨flags, (width.map Int.natAbs).getD 0, precision.map Int.toNat⟩, values)

/-- Whether values of a row are left. -/
def isLeft : PatternValues → Bool
  | row values => !values.isEmpty
  | fields _ _ => false

/-- The values that arguments are: a single object gives its fields. -/
def ofArguments : List Json → PatternValues
  | [.obj all] => if all.isEmpty then row [.obj all] else fields all (some (.obj all))
  | values => row values

end PatternValues

/-- The text of parts with values. -/
def fillParts (values : PatternValues) : List PatternPart → Except PatternFault Text
  | [] => if values.isLeft then .error .tooManyValues else .ok []
  | .char c :: rest => (fillParts values rest).map (c :: ·)
  | .openField :: _ =>
    match values with
    | .row _ => .error .noFields
    | .fields _ _ => .error .openField
  | .cutOff d :: _ =>
    match values.takeLayout d with
    | .error fault => .error fault
    | .ok _ => .error .incomplete
  | .directive d letter index :: rest => do
    let (layout, values) ← values.takeLayout d
    let (value, values) ← values.take
    let shown ← layout.render letter index value
    (fillParts values rest).map (shown ++ ·)

/-- The text of a pattern with arguments; without arguments it is no pattern and stands for
itself. -/
def fillPattern (t : Text) (arguments : List Json) : Except PatternFault Text :=
  if arguments.isEmpty then .ok t
  else fillParts (.ofArguments arguments) (patternParts 0 t)

theorem patternParts_of_not_mem {t : Text} (h : '%' ∉ t) (index : Nat) :
    patternParts index t = t.map .char := by
  induction t generalizing index with
  | nil => simp [patternParts]
  | cons c rest ih =>
    simp only [List.mem_cons, not_or] at h
    rw [patternParts, if_neg (Ne.symm h.1), ih h.2, List.map_cons]
    rintro _ rfl
    exact absurd rfl h.1

/-- A text without percent signs is shown as it is. -/
theorem fillPattern_of_not_mem {t : Text} (h : '%' ∉ t) (arguments : List Json) :
    fillPattern t arguments =
      if arguments.isEmpty || !(PatternValues.ofArguments arguments).isLeft then .ok t
      else .error .tooManyValues := by
  have hfill (values : PatternValues) (t : Text) :
      fillParts values (t.map .char) = if values.isLeft then .error .tooManyValues else .ok t := by
    induction t with
    | nil => rfl
    | cons c rest ih =>
      rw [List.map_cons, fillParts, ih]
      split <;> rfl
  rw [fillPattern, patternParts_of_not_mem h, hfill]
  cases arguments.isEmpty <;> cases (PatternValues.ofArguments arguments).isLeft <;> rfl

end Retrace

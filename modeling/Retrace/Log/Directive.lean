import Retrace.Json.Basic
import Retrace.Number.Places

/-!
# Directives

How a value is shown by a directive of a pattern (`%`-formatting): the letter says as what, and
flags, width and precision say how it is laid out.

* `PatternFault`: why a pattern cannot be filled;
* `Layout`, `Layout.render`: the text of a value.

Main statement: `length_padded`, no text is narrower than its width.
-/

namespace Retrace

/-- Why a pattern cannot be filled. -/
inductive PatternFault
  /-- A directive without its letter. -/
  | incomplete
  /-- The name of a field that is not closed. -/
  | openField
  /-- A letter that says nothing, and its index in the pattern. -/
  | unknownLetter (letter : Char) (index : Nat)
  | tooFewValues
  | tooManyValues
  /-- A directive names a field, but the values have no names. -/
  | noFields
  | noField (name : Text)
  /-- A width or precision that a value has to say is no whole number. -/
  | extentNotWhole
  /-- A width that is written is past all sizes. -/
  | wideWidth
  /-- A precision that is written is past all counts. -/
  | widePrecision
  /-- A width that a value says is past all sizes. -/
  | pastSizes
  /-- A precision that a value says is past all counts. -/
  | pastCounts
  /-- A value of the given kind is shown by a letter that takes numbers. -/
  | notNumber (letter : Char) (kind : String)
  /-- A value of the given kind is shown by a letter that takes whole numbers. -/
  | notWhole (letter : Char) (kind : String)
  /-- A value of the given kind is shown with places after the point. -/
  | notReal (kind : String)
  | notCharacter
  /-- An infinity is shown as a whole number. -/
  | infinite
  /-- What is no number is shown as a whole number. -/
  | nan
  /-- A whole number past all doubles is shown with places after the point. -/
  | pastDoubles
  /-- A whole number that is no code point is shown as a character. -/
  | pastCharacters
  /-- A whole number is too long to write. -/
  | numeral (fault : NumeralFault)
  deriving DecidableEq

/-- The wording of a fault. -/
def PatternFault.message : PatternFault → String
  | .incomplete => "incomplete format"
  | .openField => "incomplete format key"
  | .unknownLetter letter index =>
    "unsupported format character '"
      ++ String.ofList [if 31 ≤ letter.toNat ∧ letter.toNat ≤ 126 then letter else '?']
      ++ "' (0x" ++ String.ofList (Nat.toDigits 16 letter.toNat) ++ ") at index " ++ index.repr
  | .tooFewValues => "not enough arguments for format string"
  | .tooManyValues => "not all arguments converted during string formatting"
  | .noFields => "format requires a mapping"
  | .noField name => String.ofList name.quoted
  | .extentNotWhole => "* wants int"
  | .wideWidth => "width too big"
  | .widePrecision => "precision too big"
  | .pastSizes => "Python int too large to convert to C ssize_t"
  | .pastCounts => "Python int too large to convert to C int"
  | .notNumber letter kind =>
    "%" ++ String.ofList [letter] ++ " format: a real number is required, not " ++ kind
  | .notWhole letter kind =>
    "%" ++ String.ofList [letter] ++ " format: an integer is required, not " ++ kind
  | .notReal kind => "must be real number, not " ++ kind
  | .notCharacter => "%c requires int or char"
  | .infinite => "cannot convert float infinity to integer"
  | .nan => "cannot convert float NaN to integer"
  | .pastDoubles => "int too large to convert to float"
  | .pastCharacters => "%c arg not in range(0x110000)"
  | .numeral fault => fault.message

/-- How a shown value is laid out. -/
structure Layout where
  flags : Text
  width : Nat
  precision : Option Nat
  deriving DecidableEq

namespace Layout

/-- Whether a layout has a flag. -/
def hasFlag (l : Layout) (flag : Char) : Bool := l.flags.contains flag

/-- A text with blanks up to the width. -/
def padded (l : Layout) (t : Text) : Text :=
  let blanks := List.replicate (l.width - t.length) ' '
  if l.hasFlag '-' then t ++ blanks else blanks ++ t

theorem length_padded (l : Layout) (t : Text) : (l.padded t).length = max l.width t.length := by
  unfold padded
  split <;> simp only [List.length_append, List.length_replicate] <;> omega

/-- A text, cut to the precision. -/
def paddedText (l : Layout) (t : Text) : Text :=
  l.padded (match l.precision with
    | some most => t.take most
    | none => t)

/-- A number with its sign, filled up with zeros or blanks. -/
def paddedNumber (l : Layout) (negative : Bool) (leading digits : Text) : Text :=
  let sign : Text :=
    if negative then ['-']
    else if l.hasFlag '+' then ['+']
    else if l.hasFlag ' ' then [' ']
    else []
  let head := sign ++ leading
  if l.hasFlag '0' && !l.hasFlag '-' then
    head ++ List.replicate (l.width - head.length - digits.length) '0' ++ digits
  else l.padded (head ++ digits)

/-- A whole number in a base, with zeros in front up to the precision; `leading` names the base. -/
def paddedWhole (l : Layout) (base : Nat) (leading : Text) (n : Int) : Text :=
  let digits := Nat.toDigits base n.natAbs
  l.paddedNumber (n < 0) (if l.hasFlag '#' then leading else [])
    (List.replicate (l.precision.getD 0 - digits.length) '0' ++ digits)

/-- The whole number that a value is. -/
def wholeNumber? : Json → Option Int
  | .bool b => some (if b then 1 else 0)
  | .int n => some n
  | _ => none

/-- The whole number of a value, without the places after a point. -/
def wholePart (letter : Char) : Json → Except PatternFault Int
  | .float (.finite negative m e) =>
    let size := if e < 0 then m >>> (-e).toNat else m <<< e.toNat
    .ok (if negative then -(size : Int) else size)
  | .float (.infinite _) => .error .infinite
  | .float .nan => .error .nan
  | value =>
    match wholeNumber? value with
    | some n => .ok n
    | none => .error (.notNumber letter value.kind)

/-- The double that a value is. -/
def double : Json → Except PatternFault Binary64
  | .float x => .ok x
  | value =>
    match wholeNumber? value with
    | none => .error (.notReal value.kind)
    | some n =>
      match Binary64.ofInt n with
      | .infinite _ => .error .pastDoubles
      | x => .ok x

/-- A value as a whole number in a base. -/
def showBased (l : Layout) (letter : Char) (base : Nat) (leading : String) (value : Json) :
    Except PatternFault Text :=
  match wholeNumber? value with
  | some n => .ok (l.paddedWhole base leading.toList n)
  | none => .error (.notWhole letter value.kind)

/-- A value as a double, whose digits `finite` gives for the precision. -/
def showDouble (l : Layout) (finite : Bool → Nat → Int → Nat → Text) (value : Json) :
    Except PatternFault Text := do
  match ← double value with
  | .nan => .ok (l.paddedNumber false [] "nan".toList)
  | .infinite negative => .ok (l.paddedNumber negative [] "inf".toList)
  | .finite negative m e =>
    .ok (l.paddedNumber negative [] (finite (l.hasFlag '#') m e (l.precision.getD 6)))

/-- A value as a character. -/
def showCharacter (l : Layout) (value : Json) : Except PatternFault Text :=
  match value, wholeNumber? value with
  | .str [c], _ => .ok (l.padded [c])
  | _, some n => if 0 ≤ n ∧ n ≤ 0x10FFFF then .ok (l.padded [.ofNat n.toNat])
    else .error .pastCharacters
  | _, none => .error .notCharacter

/-- The text of a value by the letter at an index. -/
def render (l : Layout) (letter : Char) (index : Nat) (value : Json) : Except PatternFault Text :=
  match letter with
  | 's' => (value.display.mapError .numeral).map l.paddedText
  | 'r' => (value.written.mapError .numeral).map l.paddedText
  | 'a' => (value.written.mapError .numeral).map fun t => l.paddedText t.inAscii
  | 'c' => l.showCharacter value
  | 'x' => l.showBased letter 16 "0x" value
  | 'X' => (l.showBased letter 16 "0X" value).map (·.map Char.toUpper)
  | 'o' => l.showBased letter 8 "0o" value
  | 'e' => l.showDouble Binary64.scientificText value
  | 'E' => (l.showDouble Binary64.scientificText value).map (·.map Char.toUpper)
  | 'f' => l.showDouble Binary64.fixedText value
  | 'F' => (l.showDouble Binary64.fixedText value).map (·.map Char.toUpper)
  | 'g' => l.showDouble Binary64.generalText value
  | 'G' => (l.showDouble Binary64.generalText value).map (·.map Char.toUpper)
  | _ =>
    if letter = 'd' ∨ letter = 'i' ∨ letter = 'u' then do
      let n ← wholePart letter value
      let _ ← (writeInt n).mapError .numeral
      return l.paddedWhole 10 [] n
    else .error (.unknownLetter letter index)

end Layout

end Retrace

import Retrace.Number.Numeral
import Retrace.Number.Written
import Retrace.Path.Basic
import Retrace.Settings.Complaint
import Retrace.Yaml.Datum

/-!
# Values of settings

What a datum is used as where a field of a settings model takes it. A text that writes a number or a
truth value will do for one, and so will a number or a truth value for the other where nothing is
lost. Bytes in UTF-8 will do for a text, but not for a path or a choice.

* `Datum.whole`, `Datum.wholeWithin`, `Datum.decimal`, `Datum.truth`, `Datum.text`, `Datum.path`,
  `Datum.choice`.

Main statement: `wholeWithin_eq_ok`, a number that is accepted lies within its bounds.
-/

namespace Retrace

namespace Datum

/-- The bound of the whole numbers that a decimal may stand for, in size. -/
def wholeBound : Nat := 0x8000000000000000

/-- The whole number that a decimal stands for. -/
def wholeOfDecimal (x : Binary64) : Except ValueFlaw Int :=
  match x with
  | .finite .. =>
    match x.toInt? with
    | none => .error .fractional
    | some n => if n.natAbs < wholeBound then .ok n else .error .tooLarge
  | _ => .error .notFinite

/-- Whether a text starts with more digits than a number may have, a minus sign counted. -/
def isOverlong (t : Text) : Bool :=
  let (sign, digits) :=
    match t with
    | '-' :: digits => (1, digits)
    | digits => (0, digits)
  let digits := digits.takeWhile Char.isDigit
  digits.head? ≠ some '0' && digitLimit < sign + digits.length

/-- What the text of bytes is used as; `malformed` if they are no text. -/
def ofBytes {α : Type} (malformed : ValueFlaw) (read : Text → Except ValueFlaw α) (bytes : Bytes) :
    Except ValueFlaw α :=
  match Utf8.decode bytes with
  | .ok t => read t
  | .error _ => .error malformed

/-- The whole number that a text is used as. -/
def wholeOfText (t : Text) : Except ValueFlaw Int :=
  match wholeOfText? t with
  | some n => if isOverlong t then .error .tooLarge else .ok n
  | none => .error (if isOverlong t then .tooLarge else .notWholeText)

/-- The whole number that a datum is used as. -/
def whole : Datum → Except ValueFlaw Int
  | .int n => .ok n
  | .bool b => .ok (if b then 1 else 0)
  | .float x => wholeOfDecimal x
  | .str t => wholeOfText t
  | .bytes b => ofBytes .notWholeText wholeOfText b
  | _ => .error .notWhole

/-- The whole number that a datum is used as, between bounds. A number above is told before one
below. -/
def wholeWithin (least most : Nat) (datum : Datum) : Except ValueFlaw Nat :=
  match datum.whole with
  | .error flaw => .error flaw
  | .ok n =>
    if (most : Int) < n then .error (.above most)
    else if n < least then .error (.below least)
    else .ok n.toNat

/-- A number that is accepted lies within its bounds. -/
theorem wholeWithin_eq_ok {least most n : Nat} {datum : Datum} :
    datum.wholeWithin least most = .ok n ↔
      datum.whole = .ok (n : Int) ∧ least ≤ n ∧ n ≤ most := by
  unfold wholeWithin
  cases datum.whole with
  | error flaw => simp
  | ok k =>
    simp only [Except.ok.injEq]
    split
    · simp; omega
    · split
      · simp; omega
      · simp only [Except.ok.injEq]
        omega

/-- The decimal that a text is used as. -/
def decimalOfText (t : Text) : Except ValueFlaw Binary64 :=
  match decimalOfText? t with
  | some x => .ok x
  | none => .error .notNumberText

/-- The decimal that a datum is used as. -/
def decimal : Datum → Except ValueFlaw Binary64
  | .float x => .ok x
  | .bool b => .ok (.ofInt (if b then 1 else 0))
  | .int n =>
    match Binary64.ofInt n with
    | .infinite _ => .error .notNumber
    | x => .ok x
  | .str t => decimalOfText t
  | .bytes b => ofBytes .notNumberText decimalOfText b
  | _ => .error .notNumber

/-- The decimal that a datum is used as, above zero and up to a bound. A number above the bound is
told before one that is not above zero. -/
def decimalUpTo (most : Nat) (datum : Datum) : Except ValueFlaw Binary64 :=
  match datum.decimal with
  | .error flaw => .error flaw
  | .ok x =>
    if !x.atMost most then .error (.above most)
    else if !x.isPositive then .error (.notAbove 0)
    else .ok x

/-- The words for no. -/
def negativeWords : List String := ["0", "f", "n", "no", "off", "false"]

/-- The words for yes. -/
def positiveWords : List String := ["1", "t", "y", "on", "yes", "true"]

/-- The truth value of a whole number. -/
def truthOfWhole (n : Int) : Except ValueFlaw Bool :=
  if n = 0 then .ok false else if n = 1 then .ok true else .error .notTruthWord

/-- The truth value that a text is used as. -/
def truthOfText (t : Text) : Except ValueFlaw Bool :=
  let word := String.ofList (t.map Char.toLower)
  if negativeWords.contains word then .ok false
  else if positiveWords.contains word then .ok true
  else .error .notTruthWord

/-- The truth value that a datum is used as. -/
def truth : Datum → Except ValueFlaw Bool
  | .bool b => .ok b
  | .str t => truthOfText t
  | .bytes b => ofBytes .notTruthWord truthOfText b
  | .int n =>
    if -(wholeBound : Int) ≤ n ∧ n < wholeBound then truthOfWhole n else .error .notTruth
  | .float x =>
    match wholeOfDecimal x with
    | .ok n => truthOfWhole n
    | .error _ => .error .notTruth
  | _ => .error .notTruth

/-- The text that a datum is used as. -/
def text : Datum → Except ValueFlaw Text
  | .str t => .ok t
  | .bytes b => ofBytes .notUnicode .ok b
  | _ => .error .notText

/-- The path that a datum is used as. -/
def path : Datum → Except ValueFlaw Path
  | .str t => .ok (.ofText t)
  | _ => .error .notPath

/-- The one of some choices, each with its name, that a datum names. -/
def choice {α : Type} (choices : List α) (nameOf : α → String) (datum : Datum) :
    Except ValueFlaw α :=
  let chosen? :=
    match datum with
    | .str t => choices.find? fun a => (nameOf a).toList = t
    | _ => none
  match chosen? with
  | some a => .ok a
  | none => .error (.noChoice (choices.map nameOf))

end Datum

end Retrace

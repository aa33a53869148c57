import Retrace.Text.Digit
import Retrace.Text.Quoted

/-!
# Numerals

Reading a whole number from decimal digits of any script with `int`, and writing one with `str`.
Numerals of more than 4300 digits are refused both ways, since converting them takes time quadratic
in their length.

Main statements: `readNumeral_eq_ok` says which texts are read, and `writeInt_eq_ok` which numbers
are written.
-/

namespace Retrace

/-- Why a text is no numeral, or a number has none. -/
inductive NumeralFault
  /-- The text has a character that is no decimal digit. -/
  | notDecimal (text : Text)
  /-- The text starts with more digits than a numeral may have. -/
  | tooManyDigits (count : Nat)
  /-- The number has more digits than a numeral may have. -/
  | tooLongToWrite
  deriving DecidableEq

/-- The greatest length of a numeral. -/
def digitLimit : Nat := 4300

/-- The wording of a fault; a refused text is shown quoted, up to 200 characters. -/
def NumeralFault.message : NumeralFault → String
  | .notDecimal text =>
    "invalid literal for int() with base 10: " ++ String.ofList (text.quoted.take 200)
  | .tooManyDigits count =>
    s!"Exceeds the limit ({digitLimit} digits) for integer string conversion: value has {count} " ++
      "digits; use sys.set_int_max_str_digits() to increase the limit"
  | .tooLongToWrite =>
    s!"Exceeds the limit ({digitLimit} digits) for integer string conversion; use " ++
      "sys.set_int_max_str_digits() to increase the limit"

/-- The number that a row of digit values stands for. -/
def ofDigitValues (values : List Nat) : Nat := values.foldl (fun n d => 10 * n + d) 0

/-- The number that a text of decimal digits stands for. -/
def readNumeral (t : Text) : Except NumeralFault Nat :=
  let count := (t.takeWhile isDecimal).length
  if digitLimit < count then .error (.tooManyDigits count)
  else if t.isEmpty then .error (.notDecimal t)
  else
    match t.mapM decimalValue? with
    | some values => .ok (ofDigitValues values)
    | none => .error (.notDecimal t)

/-- The decimal digits of a number, without leading zeros. -/
def natText (n : Nat) : Text := Nat.toDigits 10 n

/-- The decimal digits of an integer, after a minus sign if it is negative. -/
def intText : Int → Text
  | .ofNat n => natText n
  | .negSucc n => '-' :: natText (n + 1)

/-- The least number with more digits than the limit. -/
def numeralBound : Nat := Nat.pow 10 digitLimit

/-- The numeral of an integer, if it is within the limit. -/
def writeInt (n : Int) : Except NumeralFault Text :=
  if n.natAbs < numeralBound then .ok (intText n) else .error .tooLongToWrite

/-- A numeral is a non-empty text of decimal digits within the limit. -/
theorem readNumeral_eq_ok {t : Text} {n : Nat} :
    readNumeral t = .ok n ↔
      (t.takeWhile isDecimal).length ≤ digitLimit ∧ t ≠ [] ∧
        ∃ values, t.mapM decimalValue? = some values ∧ n = ofDigitValues values := by
  rw [readNumeral]
  simp only [List.isEmpty_iff]
  split
  · simp; omega
  · rename_i hlim
    split
    · rename_i hnil
      simp [hnil]
    · rename_i hne
      split
      · rename_i values hvals
        simp [hvals, Nat.le_of_not_lt hlim, hne, eq_comm]
      · rename_i hvals
        simp [hvals]

/-- The numbers that have a numeral are those below the limit in size. -/
theorem writeInt_eq_ok {n : Int} {t : Text} :
    writeInt n = .ok t ↔ n.natAbs < numeralBound ∧ t = intText n := by
  rw [writeInt]
  split
  · rename_i h
    simp [h, eq_comm]
  · rename_i h
    simp [h]

end Retrace

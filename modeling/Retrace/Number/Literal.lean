import Retrace.Number.Numeral
import Retrace.Number.Written
import Retrace.Text.Percent

/-!
# Literals of numbers

Whole numbers to a base and decimals with a sign, with spaces around, and with the digits of any
script: the texts that `int` and `float` take.

* `readWhole`: a whole number, with or without the mark of its base;
* `readDecimal`: a decimal, an infinity, or the word for no number.
-/

namespace Retrace

/-- Why a text is no literal of a number. -/
inductive LiteralFault
  | notWhole (base : Nat) (text : Text)
  | numeral (fault : NumeralFault)
  | notDecimal (text : Text)
  deriving DecidableEq

/-- The wording of a fault; a text that is no whole number is shown quoted, up to 200 characters. -/
def LiteralFault.message : LiteralFault → String
  | .notWhole base text =>
    "invalid literal for int() with base " ++ base.repr ++ ": "
      ++ String.ofList (text.quoted.take 200)
  | .numeral fault => fault.message
  | .notDecimal text => "could not convert string to float: " ++ String.ofList text.quoted

/-- The character of ASCII that a character counts as in a literal: its own, a space or a digit. -/
def literalChar (c : Char) : Char :=
  if c.toNat < 0x80 then c
  else if isBlank c then ' '
  else
    match decimalValue? c with
    | some d => .ofNat (48 + d)
    | none => '?'

/-- Whether a character is a space around a literal. -/
def isLiteralSpace (c : Char) : Bool := c == ' ' || (9 ≤ c.toNat && c.toNat ≤ 13)

/-- A literal in ASCII, without the spaces around it. -/
def literalText (t : Text) : Text :=
  Text.dropEndWhile isLiteralSpace ((t.map literalChar).dropWhile isLiteralSpace)

/-- The sign of a literal, and what follows it. -/
def literalSign : Text → Bool × Text
  | '-' :: rest => (true, rest)
  | '+' :: rest => (false, rest)
  | t => (false, t)

/-- Whether a letter after a zero marks a base. -/
def marksBase (base : Nat) (letter : Char) : Bool :=
  (base == 16 && (letter == 'x' || letter == 'X')) ||
    (base == 8 && (letter == 'o' || letter == 'O')) ||
    (base == 2 && (letter == 'b' || letter == 'B'))

/-- A text without the mark of a base. -/
def withoutBaseMark (base : Nat) : Text → Text
  | '0' :: letter :: rest => if marksBase base letter then rest else '0' :: letter :: rest
  | t => t

/-- The value of a digit to a base. -/
def digitIn? (base : Nat) (c : Char) : Option Nat :=
  (hexValue? c).bind fun d => if d < base then some d else none

/-- The number that digits to a base write, if there are some and nothing else. -/
def numberIn? (base : Nat) (digits : Text) : Option Nat :=
  if digits.isEmpty then none
  else digits.foldlM (fun n c => (digitIn? base c).map (base * n + ·)) 0

/-- The whole number to a base that a text writes. -/
def readWhole (base : Nat) (t : Text) : Except LiteralFault Int :=
  let (negative, rest) := literalSign (literalText t)
  let digits := withoutBaseMark base rest
  let count := (digits.takeWhile fun c => (digitIn? base c).isSome).length
  if base = 10 ∧ digitLimit < count then .error (.numeral (.tooManyDigits count))
  else
    match numberIn? base digits with
    | some n => .ok (if negative then -(n : Int) else n)
    | none => .error (.notWhole base t)

/-- The decimal that a text writes. -/
def readDecimal (t : Text) : Except LiteralFault Binary64 :=
  match plainDecimal? (literalText t) with
  | some x => .ok x
  | none => .error (.notDecimal t)

end Retrace

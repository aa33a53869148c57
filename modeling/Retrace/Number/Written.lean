import Retrace.Number.Binary64
import Retrace.Text.Blank

/-!
# Written numbers

Numbers as people write them into settings, with digits of ASCII alone: the texts that the fields
`int` and `float` of a settings model take. White space around a number is left out, and single
underscores may stand between its characters.

* `wholeOfText?`: a whole number, also with leading zeros or with zeros after a point;
* `decimalOfText?`: a decimal, an infinity, or the word for no number.
-/

namespace Retrace

/-- The number that a row of digits writes. -/
def digitsNumber (digits : Text) : Nat := digits.foldl (fun n c => 10 * n + (c.toNat - 48)) 0

/-- A text without its underscores, if it has some and each has a character that is none on both
sides. -/
def underscoresDropped? (t : Text) : Option Text :=
  if t.contains '_' && !(t.pieces '_').contains [] then some (t.filter (· ≠ '_')) else none

/-! ### Whole numbers -/

/-- The number of a row of digits that is empty for none and starts with zero for zero alone. -/
def wholeDigits? : Text → Option Nat
  | [] => none
  | ['0'] => some 0
  | '0' :: _ => none
  | digits => if digits.all Char.isDigit then some (digitsNumber digits) else none

/-- The number of a row of digits that a minus sign may come before. -/
def plainWhole? : Text → Option Int
  | '-' :: digits => (wholeDigits? digits).map fun n => -(n : Int)
  | digits => (wholeDigits? digits).map Int.ofNat

/-- A text after the zeros that it starts with, and the underscores among them. One character is
left of zeros alone, and a zero is left before a point. -/
def withoutLeadingZeros? (t : Text) : Option Text :=
  match t with
  | '0' :: _ =>
    let zeros := t.takeWhile fun c => c == '0' || c == '_'
    match t.drop zeros.length with
    | [] => some (zeros.drop (zeros.length - 1))
    | '.' :: rest => some (zeros.drop (zeros.length - 1) ++ '.' :: rest)
    | c :: rest => if c.isDigit then some (c :: rest) else none
  | c :: _ => if c.isDigit || c == '-' then some t else none
  | [] => none

/-- A text without a point that zeros and nothing else follow; a point alone stays. -/
def withoutZeroFraction (t : Text) : Text :=
  match t.cutAt? '.' with
  | some (whole, fraction) => if !fraction.isEmpty && fraction.all (· == '0') then whole else t
  | none => t

/-- A text without the plus sign that it may start with; a second sign is refused. -/
def withoutPlus? : Text → Option Text
  | '+' :: rest => if rest.head? == some '-' then none else some rest
  | t => some t

/-- The whole number that a text writes. -/
def wholeOfText? (t : Text) : Option Int :=
  match plainWhole? t with
  | some n => some n
  | none => do
    let t ← withoutLeadingZeros? (← withoutPlus? t.strip)
    let t := withoutZeroFraction t
    plainWhole? ((underscoresDropped? t).getD t)

/-! ### Decimals -/

/-- An exponent of ten after its letter. -/
def exponentOfText? (t : Text) : Option Int :=
  let (negative, digits) :=
    match t with
    | '-' :: rest => (true, rest)
    | '+' :: rest => (false, rest)
    | t => (false, t)
  if digits.isEmpty || !digits.all Char.isDigit then none
  else some (if negative then -(digitsNumber digits : Int) else digitsNumber digits)

/-- A decimal without sign: digits on at least one side of a point that may be missing, and an
exponent that may be missing. -/
def unsignedDecimal? (negative : Bool) (t : Text) : Option Binary64 :=
  let whole := t.takeWhile Char.isDigit
  let rest := t.dropWhile Char.isDigit
  let (fraction, rest) :=
    match rest with
    | '.' :: more => (more.takeWhile Char.isDigit, more.dropWhile Char.isDigit)
    | rest => ([], rest)
  let exponent? : Option Int :=
    match rest with
    | [] => some 0
    | c :: more => if c = 'e' ∨ c = 'E' then exponentOfText? more else none
  if whole.isEmpty && fraction.isEmpty then none
  else
    exponent?.map fun exponent =>
      .ofDecimal negative (digitsNumber (whole ++ fraction)) (exponent - fraction.length)

/-- A decimal, an infinity or the word for no number, after a sign that may be missing. -/
def plainDecimal? (t : Text) : Option Binary64 :=
  let (negative, body) :=
    match t with
    | '-' :: rest => (true, rest)
    | '+' :: rest => (false, rest)
    | t => (false, t)
  let word := String.ofList (body.map Char.toLower)
  if word = "inf" ∨ word = "infinity" then some (.infinite negative)
  else if word = "nan" then some .nan
  else unsignedDecimal? negative body

/-- The decimal that a text writes. -/
def decimalOfText? (t : Text) : Option Binary64 :=
  match plainDecimal? t.strip with
  | some x => some x
  | none => (underscoresDropped? t).bind plainDecimal?

end Retrace

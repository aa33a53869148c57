import Retrace.Number.Arithmetic
import Retrace.Text.Case
import Retrace.Yaml.Moment

/-!
# Values of scalars

The value of a scalar for the constructor of `yaml.safe_load`: as a truth value, a whole number, a
decimal, or a moment in time. A number may have underscores anywhere; whole numbers may be to base
two, eight or sixteen, and both kinds in parts to base sixty.

* `truthValue`, `wholeNumber`, `decimal`, `momentOf`.
-/

namespace Retrace.Yaml

/-- The words for a truth value. -/
def truthWords : List (Text × Bool) :=
  [("yes".toList, true), ("no".toList, false), ("true".toList, true), ("false".toList, false),
    ("on".toList, true), ("off".toList, false)]

/-- The truth value that a word stands for. -/
def truthValue (t : Text) : Except ScalarFlaw Bool :=
  let word := t.lowerCase
  match truthWords.find? fun entry => entry.1 = word with
  | some entry => .ok entry.2
  | none => .error (.truth word)

/-- Whether a text starts with a minus sign. -/
def isNegated (t : Text) : Bool := t.head? == some '-'

/-- A text with characters without the sign that it may start with. -/
def withoutSign (t : Text) : Except ScalarFlaw Text :=
  match t with
  | [] => .error .noDigits
  | c :: rest => .ok (if c = '-' ∨ c = '+' then rest else c :: rest)

/-- The whole number to a base that a text writes. -/
def wholeIn (base : Nat) (t : Text) : Except ScalarFlaw Int := (readWhole base t).mapError .number

/-- The number of parts to base sixty. -/
def wholeSixtieths (parts : List Text) : Except ScalarFlaw Int :=
  (parts.mapM (wholeIn 10)).map fun digits => digits.foldl (fun n digit => 60 * n + digit) 0

/-- The value of a whole number. -/
def wholeNumber (t : Text) : Except ScalarFlaw Int := do
  let t := t.filter (· ≠ '_')
  let size ←
    match ← withoutSign t with
    | ['0'] => .ok 0
    | '0' :: 'b' :: digits => wholeIn 2 digits
    | '0' :: 'x' :: digits => wholeIn 16 digits
    | '0' :: digits => wholeIn 8 ('0' :: digits)
    | [] => .error .noDigits
    | t => if t.contains ':' then wholeSixtieths (t.pieces ':') else wholeIn 10 t
  .ok (if isNegated t then -size else size)

/-- The decimal that a text writes. -/
def decimalIn (t : Text) : Except ScalarFlaw Binary64 := (readDecimal t).mapError .number

/-- The number of parts to base sixty, given from the last on, each of a weight; added up from the
last on as doubles. -/
def decimalSixtieths (weight : Nat) (sum : Binary64) : List Binary64 → Except ScalarFlaw Binary64
  | [] => .ok sum
  | digit :: rest =>
    match Binary64.ofInt weight with
    | .infinite _ => .error .pastDoubles
    | w => decimalSixtieths (60 * weight) (sum.plus (digit.times w)) rest

/-- A double with its sign turned. -/
def turned : Binary64 → Binary64
  | .nan => .nan
  | .infinite negative => .infinite !negative
  | .finite negative m e => .finite (!negative) m e

/-- The value of a decimal. -/
def decimal (t : Text) : Except ScalarFlaw Binary64 := do
  let t := Text.lowerCase (t.filter (· ≠ '_'))
  let u ← withoutSign t
  if u = ".nan".toList then .ok .nan
  else
    let size ←
      if u = ".inf".toList then .ok (.infinite false)
      else if u.contains ':' then do
        decimalSixtieths 1 (.zero false) (← (u.pieces ':').mapM decimalIn).reverse
      else decimalIn u
    .ok (if isNegated t then turned size else size)

/-- The moment that a text is. -/
def momentOf (t : Text) : Except ScalarFlaw Moment :=
  match Moment.read? t with
  | none => .error .notMoment
  | some m => m.check.mapError .moment

end Retrace.Yaml

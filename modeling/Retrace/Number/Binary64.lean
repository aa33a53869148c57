/-!
# Doubles

The numbers of the double format, the values of `float`: a signed significand below `2 ^ 53` times a
power of two, the two infinities and one value that is no number. Everything is exact arithmetic on
natural numbers.

* `ofRatio`, `ofDecimal`, `ofInt`: the nearest double, a tie going to the even significand;
* `isPositive`, `atMost`: comparison with whole numbers;
* `toInt?`: the whole number that a double is, if it is one.

Main statement: `roundRatio_near`, rounding moves a quotient by at most one half.
-/

namespace Retrace

/-- A double: `finite negative m e` is `m * 2 ^ e`, negated if `negative`. -/
inductive Binary64
  | nan
  | infinite (negative : Bool)
  | finite (negative : Bool) (significand : Nat) (exponent : Int)
  deriving DecidableEq

/-- The whole number nearest to a quotient; a tie goes to the even one. -/
def roundRatio (num den : Nat) : Nat :=
  let quotient := num / den
  let rest := num % den
  if 2 * rest < den then quotient
  else if den < 2 * rest then quotient + 1
  else if quotient % 2 = 0 then quotient else quotient + 1

/-- Rounding moves a quotient by at most one half, both ways. -/
theorem roundRatio_near {num den : Nat} (h : 0 < den) :
    2 * num ≤ (2 * roundRatio num den + 1) * den ∧
      2 * (roundRatio num den * den) ≤ 2 * num + den := by
  have hdiv := Nat.div_add_mod num den
  have hmod := Nat.mod_lt num h
  have hcomm : num / den * den = den * (num / den) := Nat.mul_comm _ _
  rw [roundRatio]
  simp only [Nat.add_mul, Nat.mul_assoc, Nat.one_mul]
  split
  · omega
  · split
    · rw [Nat.add_mul]; omega
    · split
      · omega
      · rw [Nat.add_mul]; omega

namespace Binary64

/-- The least exponent of a double. -/
def leastExponent : Int := -1074

/-- The greatest exponent of a double. -/
def greatestExponent : Int := 971

/-- Zero of either sign. -/
def zero (negative : Bool) : Binary64 := .finite negative 0 leastExponent

/-- A quotient divided by a power of two, as a quotient. -/
def scaleDown (num den : Nat) (e : Int) : Nat × Nat :=
  if e < 0 then (num <<< (-e).toNat, den) else (num, den <<< e.toNat)

/-- The double nearest to a quotient. -/
def ofRatio (negative : Bool) (num den : Nat) : Binary64 :=
  if num = 0 then zero negative
  else
    let guess : Int := (Nat.log2 num : Int) - Nat.log2 den - 52
    let (n, d) := scaleDown num den guess
    let e := max (if n < d <<< 52 then guess - 1 else guess) leastExponent
    let (n, d) := scaleDown num den e
    let m := roundRatio n d
    let (m, e) := if m = 1 <<< 53 then (1 <<< 52, e + 1) else (m, e)
    if greatestExponent < e then .infinite negative else .finite negative m e

/-- The double nearest to `digits * 10 ^ exponent`. Far outside the range of doubles the answer
does not depend on the digits. -/
def ofDecimal (negative : Bool) (digits : Nat) (exponent : Int) : Binary64 :=
  if digits = 0 then zero negative
  else if 400 < exponent then .infinite negative
  else if exponent + (Nat.log2 digits / 3 + 1 : Nat) < -400 then zero negative
  else if exponent < 0 then ofRatio negative digits (Nat.pow 10 (-exponent).toNat)
  else ofRatio negative (digits * Nat.pow 10 exponent.toNat) 1

/-- The double nearest to an integer. -/
def ofInt (n : Int) : Binary64 := ofRatio (n < 0) n.natAbs 1

/-- Whether a double is zero, of either sign. -/
def isZero : Binary64 → Bool
  | .finite _ m _ => m == 0
  | _ => false

/-- Whether a double is above zero. -/
def isPositive : Binary64 → Bool
  | .nan => false
  | .infinite negative => !negative
  | .finite negative m _ => !negative && m != 0

/-- Whether a double is at most a whole number. -/
def atMost (bound : Nat) : Binary64 → Bool
  | .nan => false
  | .infinite negative => negative
  | .finite negative m e =>
    negative || (if e < 0 then m ≤ bound <<< (-e).toNat else m <<< e.toNat ≤ bound)

/-- The integer that a double is, if it is one. -/
def toInt? : Binary64 → Option Int
  | .finite negative m e =>
    let whole : Option Nat :=
      if e < 0 then (if m % 1 <<< (-e).toNat = 0 then some (m >>> (-e).toNat) else none)
      else some (m <<< e.toNat)
    whole.map fun n => if negative then -(n : Int) else n
  | _ => none

end Binary64

end Retrace

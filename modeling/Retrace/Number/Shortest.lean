import Retrace.Number.Binary64
import Retrace.Number.Numeral

/-!
# Shortest decimals

The text of a double (`repr` of a `float`): the fewest decimal digits that read back as the same
double, and of those the nearest to it. For one, two, … seventeen digits the two neighbours of the
value on that decimal grid are tested against the interval of reals that round to it.

Main statement: `inside_iff`, the test is membership in the interval, whose ends count exactly when
the significand is even.
-/

namespace Retrace

/-- The reals that round to a double, in units of `1 / den`: from `low` to `high` around `mid`, the
ends included if `closed`. -/
structure RoundingInterval where
  low : Nat
  mid : Nat
  high : Nat
  den : Nat
  closed : Bool

namespace RoundingInterval

/-- The interval of the double with the given significand and exponent. Below a power of two the
doubles stand twice as close. -/
def around (m : Nat) (e : Int) : RoundingInterval :=
  let up := 1 <<< (e - 2).toNat
  let den := 1 <<< (2 - e).toNat
  let gap := if m = 1 <<< 52 ∧ Binary64.leastExponent < e then 1 else 2
  ⟨(4 * m - gap) * up, 4 * m * up, (4 * m + 2) * up, den, m % 2 == 0⟩

/-- The interval in units of `10 ^ g`. -/
def onGrid (r : RoundingInterval) (g : Int) : RoundingInterval :=
  let up := Nat.pow 10 (-g).toNat
  ⟨r.low * up, r.mid * up, r.high * up, r.den * Nat.pow 10 g.toNat, r.closed⟩

/-- Whether a whole number lies in the interval. -/
def inside (r : RoundingInterval) (n : Nat) : Bool :=
  if r.closed then r.low ≤ n * r.den && n * r.den ≤ r.high
  else r.low < n * r.den && n * r.den < r.high

theorem inside_iff (r : RoundingInterval) (n : Nat) :
    r.inside n = true ↔
      (r.low < n * r.den ∨ r.closed = true ∧ n * r.den = r.low) ∧
        (n * r.den < r.high ∨ r.closed = true ∧ n * r.den = r.high) := by
  rw [inside]
  split
  · rename_i h
    simp only [h, Bool.and_eq_true, decide_eq_true_eq, true_and]
    omega
  · rename_i h
    simp [h]

/-- The neighbour of the value among the whole numbers that lies in the interval; of two the
nearer, and of two as near the even one. -/
def nearest? (r : RoundingInterval) : Option Nat :=
  let below := r.mid / r.den
  match r.inside below, r.inside (below + 1) with
  | true, true => some (roundRatio r.mid r.den)
  | true, false => some below
  | false, true => some (below + 1)
  | false, false => none

/-- The place of the first digit of the value: it is below `10 ^ place`, and not below
`10 ^ (place - 1)`. -/
def place (r : RoundingInterval) : Int :=
  if r.den ≤ r.mid then (natText (r.mid / r.den)).length
  else 1 - (natText (r.den / r.mid)).length

/-- The first of the given numbers of digits that suffices, as digits and an exponent of ten. -/
def shortestOf (r : RoundingInterval) : List Nat → Option (Nat × Int)
  | [] => none
  | count :: more =>
    let g := r.place - count
    match (r.onGrid g).nearest? with
    | some digits => some (digits, g)
    | none => shortestOf r more

/-- The shortest decimal in the interval. -/
def shortest (r : RoundingInterval) : Nat × Int :=
  (r.shortestOf ((List.range 17).map (· + 1))).getD (0, 0)

end RoundingInterval

namespace Binary64

/-- A power of ten after its letter, with a sign and at least two digits. -/
def powerText (power : Int) : Text :=
  ['e', if power < 0 then '-' else '+'] ++ (if power.natAbs < 10 then ['0'] else [])
    ++ natText power.natAbs

/-- Digits with the decimal point after the first `point` of them: positional from `10 ^ -4` up to
`10 ^ 16`, with a digit on both sides of the point; else with a power of ten. -/
def layout (digits : Text) (point : Int) : Text :=
  if -4 < point ∧ point ≤ 16 then
    if point ≤ 0 then '0' :: '.' :: (List.replicate (-point).toNat '0' ++ digits)
    else
      let whole := digits.take point.toNat
      let fraction := digits.drop point.toNat
      whole ++ List.replicate (point.toNat - digits.length) '0'
        ++ '.' :: (if fraction.isEmpty then ['0'] else fraction)
  else
    let fraction := digits.drop 1
    digits.take 1 ++ (if fraction.isEmpty then [] else '.' :: fraction) ++ powerText (point - 1)

/-- The text of a double. -/
def text : Binary64 → Text
  | .nan => "nan".toList
  | .infinite negative => (if negative then "-inf" else "inf").toList
  | .finite negative m e =>
    let body :=
      if m = 0 then "0.0".toList
      else
        let (digits, g) := (RoundingInterval.around m e).shortest
        let row := natText digits
        layout (Text.dropEndWhile (· = '0') row) (row.length + g)
    if negative then '-' :: body else body

end Binary64

end Retrace

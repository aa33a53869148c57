import Retrace.Number.Shortest

/-!
# Decimals with a number of places

The text of the value of a double, given by significand and exponent, to some decimal places or
significant digits: the forms `f`, `e` and `g` of `format`. The value is rounded exactly; a half
goes to the even neighbour.

* `fixedText`: with places after the point;
* `scientificText`: with one digit before the point, places after it and a power of ten;
* `generalText`: whichever of the two is plainer, with a number of significant digits.

Main statement: `unitsAt_near`, no text is off by more than half a unit of its last place.
-/

namespace Retrace.Binary64

/-- The value of a double times `10 ^ places`, as a quotient. -/
def scaledRatio (m : Nat) (e places : Int) : Nat × Nat :=
  (m <<< e.toNat * Nat.pow 10 places.toNat, 1 <<< (-e).toNat * Nat.pow 10 (-places).toNat)

/-- The whole number of units of `10 ^ -places` nearest to the value of a double. -/
def unitsAt (m : Nat) (e places : Int) : Nat :=
  roundRatio (scaledRatio m e places).1 (scaledRatio m e places).2

/-- The units are off by at most one half, both ways. -/
theorem unitsAt_near (m : Nat) (e places : Int) :
    2 * (scaledRatio m e places).1 ≤ (2 * unitsAt m e places + 1) * (scaledRatio m e places).2 ∧
      2 * (unitsAt m e places * (scaledRatio m e places).2) ≤
        2 * (scaledRatio m e places).1 + (scaledRatio m e places).2 := by
  apply roundRatio_near
  rw [scaledRatio, Nat.one_shiftLeft]
  exact Nat.mul_pos (Nat.two_pow_pos _) (Nat.pow_pos (by decide))

/-- The nearest number of `places + 1` significant digits, and the power of ten of the first of
them. -/
def significant (m : Nat) (e : Int) (places : Nat) : Nat × Int :=
  if m = 0 then (0, 0)
  else
    let power := (RoundingInterval.around m e).place - 1
    let units := unitsAt m e (places - power)
    if units = Nat.pow 10 (places + 1) then (Nat.pow 10 places, power + 1) else (units, power)

/-- A number of units of `10 ^ -places`, with a point if there are places. -/
def pointed (places units : Nat) : Text :=
  let row := natText units
  let row := List.replicate (places + 1 - row.length) '0' ++ row
  let whole := row.take (row.length - places)
  if places = 0 then whole else whole ++ '.' :: row.drop (row.length - places)

/-- A number that ends with a point if it has none. -/
def withPoint (t : Text) : Text := if t.contains '.' then t else t ++ ['.']

/-- A number without zeros at the end of its places, and without a point that ends it. -/
def withoutEndZeros (t : Text) : Text :=
  if t.contains '.' then Text.dropEndWhile (· = '.') (Text.dropEndWhile (· = '0') t) else t

/-- The value of a double with places after the point, which is kept without places if `full`. -/
def fixedText (full : Bool) (m : Nat) (e : Int) (places : Nat) : Text :=
  let t := pointed places (unitsAt m e places)
  if full then withPoint t else t

/-- The value of a double with one digit before the point, which is kept without places if
`full`. -/
def scientificText (full : Bool) (m : Nat) (e : Int) (places : Nat) : Text :=
  let (units, power) := significant m e places
  let t := pointed places units
  (if full then withPoint t else t) ++ powerText power

/-- The value of a double with at most `count` significant digits, or exactly that many if `full`.
It has a power of ten if that is below `-4` or the digits do not reach the point. -/
def generalText (full : Bool) (m : Nat) (e : Int) (count : Nat) : Text :=
  let places := count - 1
  let (units, power) := significant m e places
  let trim (t : Text) : Text := if full then withPoint t else withoutEndZeros t
  if -4 ≤ power ∧ power ≤ places then trim (pointed (places - power).toNat units)
  else trim (pointed places units) ++ powerText power

end Retrace.Binary64

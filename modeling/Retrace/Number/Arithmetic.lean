import Retrace.Number.Binary64

/-!
# Arithmetic of doubles

Sums and products of doubles, the `+` and `*` of `float`, each the double nearest to the exact
value.

* `Binary64.plus`, `Binary64.times`.

Main statements: `plus_comm` and `times_comm`.
-/

namespace Retrace.Binary64

/-- The double nearest to `m * 2 ^ e`, with a sign. -/
def ofScaled (negative : Bool) (m : Nat) (e : Int) : Binary64 :=
  ofRatio negative (m <<< e.toNat) (1 <<< (-e).toNat)

/-- A number with a sign. -/
def withSign (negative : Bool) (m : Nat) : Int := if negative then -(m : Int) else m

/-- The sum of `m * 2 ^ e` and `n * 2 ^ f`, each with a sign, in units of the lesser power. -/
def unitSum (s : Bool) (m : Nat) (e : Int) (t : Bool) (n : Nat) (f : Int) : Int :=
  withSign s (m <<< (e - min e f).toNat) + withSign t (n <<< (f - min e f).toNat)

theorem unitSum_comm (s : Bool) (m : Nat) (e : Int) (t : Bool) (n : Nat) (f : Int) :
    unitSum s m e t n f = unitSum t n f s m e := by
  rw [unitSum, unitSum, Int.min_comm e f, Int.add_comm]

/-- The sum of two doubles. A sum of zero is negative only if both are. -/
def plus : Binary64 → Binary64 → Binary64
  | .nan, _ => .nan
  | _, .nan => .nan
  | .infinite s, .infinite t => if s = t then .infinite s else .nan
  | .infinite s, .finite .. => .infinite s
  | .finite .., .infinite t => .infinite t
  | .finite s m e, .finite t n f =>
    let sum := unitSum s m e t n f
    if sum = 0 then zero (s && t) else ofScaled (sum < 0) sum.natAbs (min e f)

/-- The product of two doubles. -/
def times : Binary64 → Binary64 → Binary64
  | .nan, _ => .nan
  | _, .nan => .nan
  | .infinite s, .infinite t => .infinite (s != t)
  | .infinite s, .finite t n _ => if n = 0 then .nan else .infinite (s != t)
  | .finite s m _, .infinite t => if m = 0 then .nan else .infinite (s != t)
  | .finite s m e, .finite t n f => ofScaled (s != t) (m * n) (e + f)

theorem plus_comm (x y : Binary64) : plus x y = plus y x := by
  cases x <;> cases y <;> simp only [plus]
  · rename_i s t
    cases s <;> cases t <;> rfl
  · rename_i s m e t n f
    rw [unitSum_comm, Int.min_comm, Bool.and_comm]

theorem bne_comm (s t : Bool) : (s != t) = (t != s) := by cases s <;> cases t <;> rfl

theorem times_comm (x y : Binary64) : times x y = times y x := by
  cases x <;> cases y <;> simp only [times, bne_comm]
  rename_i s m e t n f
  rw [bne_comm s t, Nat.mul_comm, Int.add_comm]

end Retrace.Binary64

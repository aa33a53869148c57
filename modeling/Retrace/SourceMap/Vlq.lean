import Retrace.Text.Base64
import Retrace.Text.Quoted

/-!
# Variable-length numbers

Integers of any size as base64 digits, least significant first: five bits of each digit belong to
the number and the sixth says that more follow. The lowest bit of the whole is the sign.

* `Vlq.encode`: the digits of an integer (`encode_vlq`), none of them redundant;
* `Vlq.decode`: the integers of a run of digits (`decode_vlq`).

Main statements: `signed_toSigned` (the sign bit is undone) and `decode_flatMap_encode` (a row of
written integers is read back).
-/

namespace Retrace.Vlq

/-- An integer with its sign in the lowest bit. -/
def toSigned (n : Int) : Nat := if n < 0 then 2 * n.natAbs + 1 else 2 * n.natAbs

/-- The integer whose sign is the lowest bit. -/
def signed (n : Nat) : Int := if n % 2 = 1 then -((n / 2 : Nat) : Int) else ((n / 2 : Nat) : Int)

theorem signed_toSigned (n : Int) : signed (toSigned n) = n := by
  simp only [toSigned, signed]
  split <;> split <;> omega

/-- The digits of a natural number. -/
def encodeNat (n : Nat) : Text :=
  if h : n < 32 then [Base64.digit n]
  else Base64.digit (n % 32 + 32) :: encodeNat (n / 32)
termination_by n

/-- The digits of an integer. -/
def encode (n : Int) : Text := encodeNat (toSigned n)

/-- Why a text is no run of numbers. -/
inductive Fault
  /-- A character that is no digit. -/
  | foreignCharacter (c : Char) (text : Text)
  /-- The last number is cut off. -/
  | truncated (text : Text)
  deriving DecidableEq

/-- The wording of a fault. -/
def Fault.message : Fault → String
  | .foreignCharacter c text =>
    s!"Invalid VLQ character {String.ofList (Text.quoted [c])} in {String.ofList text.quoted}"
  | .truncated text => s!"Truncated VLQ value in {String.ofList text.quoted}"

/-- The integers of the rest of a text, where the digits before it make up `value` of a number and
the next digit counts `weight`. -/
def decodeFrom (whole : Text) (value weight : Nat) : Text → Except Fault (List Int)
  | [] => if weight = 1 then .ok [] else .error (.truncated whole)
  | c :: rest =>
    match Base64.digitValue? c with
    | none => .error (.foreignCharacter c whole)
    | some d =>
      let value := value + d % 32 * weight
      if 32 ≤ d then decodeFrom whole value (weight * 32) rest
      else (decodeFrom whole 0 1 rest).map (signed value :: ·)

/-- The integers of a text. -/
def decode (t : Text) : Except Fault (List Int) := decodeFrom t 0 1 t

theorem decodeFrom_encodeNat (whole rest : Text) (value weight n : Nat) :
    decodeFrom whole value weight (encodeNat n ++ rest)
      = (decodeFrom whole 0 1 rest).map (signed (value + n * weight) :: ·) := by
  fun_induction encodeNat n generalizing value weight with
  | case1 n h =>
    have hv := Base64.digitValue?_digit (v := n) (by omega)
    have hn : ¬ 32 ≤ n := by omega
    simp [decodeFrom, hv, hn, Nat.mod_eq_of_lt h]
  | case2 n h ih =>
    have hv := Base64.digitValue?_digit (v := n % 32 + 32) (by omega)
    have hsum : value + n % 32 * weight + n / 32 * (weight * 32) = value + n * weight := by
      have hn := Nat.div_add_mod n 32
      have : n * weight = (32 * (n / 32) + n % 32) * weight := by rw [hn]
      rw [this, Nat.add_mul, Nat.mul_comm weight 32, ← Nat.mul_assoc, Nat.mul_comm (n / 32) 32]
      omega
    simp [decodeFrom, hv, ih, hsum]

/-- A written integer is read back, whatever follows. -/
theorem decodeFrom_encode_append (whole rest : Text) (n : Int) :
    decodeFrom whole 0 1 (encode n ++ rest)
      = (decodeFrom whole 0 1 rest).map (n :: ·) := by
  rw [encode, decodeFrom_encodeNat]
  simp [signed_toSigned]

/-- A row of written integers is read back. -/
theorem decode_flatMap_encode (ns : List Int) : decode (ns.flatMap encode) = .ok ns := by
  have main : ∀ whole, decodeFrom whole 0 1 (ns.flatMap encode) = .ok ns := by
    intro whole
    induction ns with
    | nil => simp [decodeFrom]
    | cons n rest ih =>
      rw [List.flatMap_cons, decodeFrom_encode_append, ih]
      rfl
  exact main _

end Retrace.Vlq

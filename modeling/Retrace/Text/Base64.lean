import Retrace.Text.Blank
import Retrace.Text.Utf8

/-!
# Base64

Groups of four digits of six bits for three bytes, the last group padded with `=`. Two alphabets are
in use, which differ in the last two digits. The readers are `b64decode`, strict and loose.

* `Base64.digit`, `Base64.digitValue?`: the standard alphabet both ways;
* `Base64.encode`: the padded text of bytes;
* `Base64.decodeStrict`: the bytes of a padded text, or the first thing that is wrong with it;
* `Base64.decode`: the same for either alphabet, padded or not, with blanks around it;
* `Base64.decodeLoose`: the bytes of a text in which everything else is passed over.

Main statements: `digitValue?_digit` and `digitValue?_eq_some`, which make the digits of the
alphabet and their values correspond one to one.
-/

namespace Retrace.Base64

/-- The digits in order of their values. -/
def alphabet : Text :=
  "ABCDEFGHIJKLMNOPQRSTUVWXYZabcdefghijklmnopqrstuvwxyz0123456789+/".toList

/-- The digit with a value below 64. -/
def digit (value : Nat) : Char := alphabet.getD value 'A'

/-- The value of a digit. -/
def digitValue? (c : Char) : Option Nat :=
  let n := c.toNat
  if 65 ≤ n ∧ n ≤ 90 then some (n - 65)
  else if 97 ≤ n ∧ n ≤ 122 then some (n - 71)
  else if 48 ≤ n ∧ n ≤ 57 then some (n + 4)
  else if n = 43 then some 62
  else if n = 47 then some 63
  else none

theorem digitValue?_lt {c : Char} {v : Nat} (h : digitValue? c = some v) : v < 64 := by
  grind [digitValue?]

theorem toNat_lt_of_digitValue? {c : Char} {v : Nat} (h : digitValue? c = some v) :
    c.toNat < 128 := by
  grind [digitValue?]

/-- A digit has the value it was made from. -/
theorem digitValue?_digit {v : Nat} (h : v < 64) : digitValue? (digit v) = some v := by
  have table : ∀ k : Fin 64, digitValue? (digit k) = some k.val := by decide +kernel
  exact table ⟨v, h⟩

/-- The only digit with a value is the one made from it. -/
theorem digitValue?_eq_some {c : Char} {v : Nat} :
    digitValue? c = some v ↔ v < 64 ∧ c = digit v := by
  constructor
  · intro h
    have table : ∀ n : Fin 128,
        (digitValue? (Char.ofNat n)).all (fun v => Char.ofNat n = digit v) = true := by
      decide +kernel
    have entry := table ⟨c.toNat, toNat_lt_of_digitValue? h⟩
    have hchar : Char.ofNat c.toNat = c := Char.ofNat_toNat c
    simp only [hchar, h, Option.all_some, decide_eq_true_eq] at entry
    exact ⟨digitValue?_lt h, entry⟩
  · rintro ⟨hv, rfl⟩
    exact digitValue?_digit hv

/-- The padded base64 text of bytes. -/
def encode : Bytes → Text
  | [] => []
  | [a] => [digit (a.toNat / 4), digit (a.toNat % 4 * 16), '=', '=']
  | [a, b] =>
    [digit (a.toNat / 4), digit (a.toNat % 4 * 16 + b.toNat / 16), digit (b.toNat % 16 * 4), '=']
  | a :: b :: c :: rest =>
    digit (a.toNat / 4) :: digit (a.toNat % 4 * 16 + b.toNat / 16)
      :: digit (b.toNat % 16 * 4 + c.toNat / 64) :: digit (c.toNat % 64) :: encode rest

/-- Why a text is no base64. -/
inductive Fault
  | notAscii
  | leadingPadding
  | foreignCharacter
  | excessData
  | discontinuousPadding
  /-- One digit is left over after the last group; `count` digits in all. -/
  | extraDigit (count : Nat)
  | incorrectPadding
  deriving DecidableEq

/-- The wording of a fault. -/
def Fault.message : Fault → String
  | .notAscii => "string argument should contain only ASCII characters"
  | .leadingPadding => "Leading padding not allowed"
  | .foreignCharacter => "Only base64 data is allowed"
  | .excessData => "Excess data after padding"
  | .discontinuousPadding => "Discontinuous padding not allowed"
  | .extraDigit count =>
    s!"Invalid base64-encoded string: number of data characters ({count}) cannot be 1 more than " ++
      "a multiple of 4"
  | .incorrectPadding => "Incorrect padding"

/-- The bytes that the digits of a group write in full. -/
def groupBytes : List Nat → Bytes
  | [a, b] => [.ofNat (a * 4 + b / 16)]
  | [a, b, c] => [.ofNat (a * 4 + b / 16), .ofNat (b * 16 + c / 4)]
  | [a, b, c, d] => [.ofNat (a * 4 + b / 16), .ofNat (b * 16 + c / 4), .ofNat (c * 64 + d)]
  | _ => []

/-- The bytes of the rest of a text, after `groups` full groups, the digits `group` and the padding
that follows them. -/
def decodeFrom (groups : Nat) (group : List Nat) (pads : Nat) (padded : Bool) :
    Text → Except Fault Bytes
  | [] =>
    match group with
    | [] => .ok []
    | [_] => .error (.extraDigit (4 * groups + 1))
    | _ => .error .incorrectPadding
  | c :: rest =>
    if c = '=' then
      if 2 ≤ group.length then
        if 4 ≤ group.length + pads + 1 then
          if rest.isEmpty then .ok (groupBytes group) else .error .excessData
        else decodeFrom groups group (pads + 1) true rest
      else decodeFrom groups group pads true rest
    else
      match digitValue? c with
      | none => .error .foreignCharacter
      | some value =>
        if padded then .error .discontinuousPadding
        else if group.length = 3 then
          (decodeFrom (groups + 1) [] 0 false rest).map (groupBytes (group ++ [value]) ++ ·)
        else decodeFrom groups (group ++ [value]) 0 false rest

/-- The bytes of a padded base64 text in the standard alphabet. -/
def decodeStrict (t : Text) : Except Fault Bytes :=
  if t.any fun c => 0x80 ≤ c.toNat then .error .notAscii
  else if t.head? = some '=' then .error .leadingPadding
  else decodeFrom 0 [] 0 false t

/-- A character of the web alphabet as one of the standard alphabet. -/
def toStandard (c : Char) : Char := if c = '-' then '+' else if c = '_' then '/' else c

/-- The padding that makes a length a multiple of four. -/
def padding (length : Nat) : Text := List.replicate ((4 - length % 4) % 4) '='

/-- A trimmed text in the standard alphabet, padded. -/
def normalize (t : Text) : Text :=
  let digits := t.trim.map toStandard
  digits ++ padding digits.length

/-- The bytes of a base64 text in either alphabet, padded or not. -/
def decode (t : Text) : Except Fault Bytes := decodeStrict (normalize t)

/-- The bytes of the rest of a text, after `groups` full groups, the digits `group` and the padding
that follows them. Padding that fills up a group ends the text. -/
def decodeLooseFrom (groups : Nat) (group : List Nat) (pads : Nat) : Text → Except Fault Bytes
  | [] =>
    match group with
    | [] => .ok []
    | [_] => .error (.extraDigit (4 * groups + 1))
    | _ => .error .incorrectPadding
  | c :: rest =>
    if c = '=' then
      if 2 ≤ group.length then
        if 4 ≤ group.length + pads + 1 then .ok (groupBytes group)
        else decodeLooseFrom groups group (pads + 1) rest
      else decodeLooseFrom groups group pads rest
    else
      match digitValue? c with
      | none => decodeLooseFrom groups group pads rest
      | some value =>
        if group.length = 3 then
          (decodeLooseFrom (groups + 1) [] 0 rest).map (groupBytes (group ++ [value]) ++ ·)
        else decodeLooseFrom groups (group ++ [value]) 0 rest

/-- The bytes of a base64 text of ASCII in the standard alphabet, everything else passed over. -/
def decodeLoose (t : Text) : Except Fault Bytes :=
  if t.any fun c => 0x80 ≤ c.toNat then .error .notAscii else decodeLooseFrom 0 [] 0 t

end Retrace.Base64

import Retrace.Text.Utf8

/-!
# Percent-encoding

A percent sign and two hexadecimal digits stand for a byte; a percent sign that is not followed by
two digits stands for itself.

* `Percent.bytes`: the bytes that a text stands for (`unquote_to_bytes`);
* `Percent.text`: the text that it stands for (`unquote`), where each run of ASCII is read as bytes
  of UTF-8 and malformed parts are replaced;
* `Percent.encode`: the unreserved characters as they are, every other byte in digits.

Main statement: `bytes_encode`, what `encode` writes stands for the bytes it was written from.
-/

namespace Retrace

/-- The value of a hexadecimal digit of either case. -/
def hexValue? (c : Char) : Option Nat :=
  let n := c.toNat
  if 48 ≤ n ∧ n ≤ 57 then some (n - 48)
  else if 65 ≤ n ∧ n ≤ 70 then some (n - 55)
  else if 97 ≤ n ∧ n ≤ 102 then some (n - 87)
  else none

/-- The byte that two hexadecimal digits write. -/
def hexByte? (a b : Char) : Option UInt8 :=
  match hexValue? a, hexValue? b with
  | some high, some low => some (.ofNat (16 * high + low))
  | _, _ => none

namespace Percent

/-- The bytes that a percent-encoded text stands for. -/
def bytes : Text → Bytes
  | [] => []
  | '%' :: a :: b :: rest =>
    match hexByte? a b with
    | some byte => byte :: bytes rest
    | none => 0x25 :: bytes (a :: b :: rest)
  | c :: rest => Utf8.encodeChar c ++ bytes rest

/-- The text of a percent-encoded text, whose last characters of ASCII are given in reverse. -/
def textFrom (run : Text) : Text → Text
  | [] => Utf8.decodeLossy (bytes run.reverse)
  | c :: rest =>
    if c.toNat < 0x80 then textFrom (c :: run) rest
    else Utf8.decodeLossy (bytes run.reverse) ++ c :: textFrom [] rest

/-- The text that a percent-encoded text stands for. -/
def text (t : Text) : Text := textFrom [] t

/-- Whether a byte needs no encoding: letters, digits, `_`, `.`, `-` and `~`. -/
def isUnreserved (byte : UInt8) : Bool :=
  let n := byte.toNat
  (48 ≤ n && n ≤ 57) || (65 ≤ n && n ≤ 90) || (97 ≤ n && n ≤ 122)
    || n == 95 || n == 46 || n == 45 || n == 126

/-- A hexadecimal digit in upper case. -/
def upperHexDigit (n : Nat) : Char := if n < 10 then .ofNat (48 + n) else .ofNat (55 + n)

/-- A byte as a character if it is unreserved, else in digits. -/
def encodeByte (byte : UInt8) : Text :=
  if isUnreserved byte then [.ofNat byte.toNat]
  else ['%', upperHexDigit (byte.toNat / 16), upperHexDigit (byte.toNat % 16)]

/-- The percent-encoding of bytes. -/
def encode (b : Bytes) : Text := b.flatMap encodeByte

theorem bytes_plain {c : Char} (h : c ≠ '%') (rest : Text) :
    bytes (c :: rest) = Utf8.encodeChar c ++ bytes rest := by
  rw [bytes]
  intro _ _ _ hc
  exact absurd hc h

/-- A written byte stands for itself, whatever follows. -/
theorem bytes_encodeByte (byte : UInt8) (rest : Text) :
    bytes (encodeByte byte ++ rest) = byte :: bytes rest := by
  have table : ∀ n : Fin 256,
      (isUnreserved (.ofNat n) = true → Char.ofNat n ≠ '%' ∧
        Utf8.encodeChar (.ofNat (UInt8.ofNat n).toNat) = [UInt8.ofNat n]) ∧
      hexByte? (upperHexDigit ((UInt8.ofNat n).toNat / 16))
        (upperHexDigit ((UInt8.ofNat n).toNat % 16)) = some (UInt8.ofNat n) := by decide +kernel
  have hbyte : UInt8.ofNat byte.toNat = byte := UInt8.ofNat_toNat
  have entry := table ⟨byte.toNat, byte.toNat_lt⟩
  simp only [hbyte] at entry
  rw [encodeByte]
  split
  · rename_i h
    obtain ⟨hne, henc⟩ := entry.1 h
    rw [List.singleton_append, bytes_plain hne, henc]
    rfl
  · simp only [List.cons_append, List.nil_append]
    rw [bytes, entry.2]

/-- Decoding undoes encoding. -/
theorem bytes_encode (b : Bytes) : bytes (encode b) = b := by
  induction b with
  | nil => rfl
  | cons byte rest ih =>
    rw [encode, List.flatMap_cons, bytes_encodeByte]
    exact congrArg _ ih

end Percent

end Retrace

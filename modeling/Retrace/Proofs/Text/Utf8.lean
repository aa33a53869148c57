import Retrace.Text.Utf8

/-!
# Reading written UTF-8

A character takes one byte, or a first byte and as many more as that byte asks for; either way the
reader gets back the code point that the bytes were made from. Hence a written text is read as it
is, strictly or with replacements.

* `next_tail`: what a further byte of a written character does;
* `decodeFrom_owed_one`, `decodeFrom_owed_two`, `decodeFrom_owed_three`: the end of a character that
  has begun;
* `decodeFrom_encodeChar`: what the bytes of one character do.

Main statements: `decode_encode` and `decodeLossy_encode`.
-/

namespace Retrace.Utf8

theorem toNat_ofNat {n : Nat} (h : n < 256) : (UInt8.ofNat n).toNat = n := by
  rw [UInt8.toNat_ofNat']
  exact Nat.mod_eq_of_lt h

/-- Code points of characters leave out the surrogates. -/
theorem toNat_range (c : Char) :
    c.toNat < 0xD800 ∨ 0xDFFF < c.toNat ∧ c.toNat < 0x110000 := c.valid

/-- A further byte of a written character adds its six bits. -/
theorem next_tail {value taken owed low high bits : Nat} (hbits : bits < 64)
    (hlow : low ≤ 0x80 + bits) (hhigh : 0x80 + bits ≤ high) :
    Opened.next ⟨value, taken, owed, low, high⟩ (.ofNat (0x80 + bits)) =
      if owed ≤ 1 then .char (.ofNat (value * 64 + bits))
      else .opened ⟨value * 64 + bits, taken + 1, owed - 1, 0x80, 0xBF⟩ := by
  rw [Opened.next, toNat_ofNat (by omega)]
  dsimp only
  rw [if_pos ⟨hlow, hhigh⟩, Nat.add_sub_cancel_left]

theorem first_one {n : Nat} (h : n < 0x80) : first (.ofNat n) = .char (.ofNat n) := by
  rw [first, toNat_ofNat (by omega), if_pos h]

theorem first_two (high : Nat) (hlow : 2 ≤ high) (hhigh : high < 32) :
    first (.ofNat (0xC0 + high)) = .opened ⟨high, 1, 1, 0x80, 0xBF⟩ := by
  rw [first, toNat_ofNat (by omega)]
  rw [if_neg (by omega), if_neg (by omega), if_pos (by omega), Nat.add_sub_cancel_left]

theorem first_three (high : Nat) (h : high < 16) :
    first (.ofNat (0xE0 + high)) = .opened ⟨high, 1, 2, if high = 0 then 0xA0 else 0x80,
      if high = 13 then 0x9F else 0xBF⟩ := by
  rw [first, toNat_ofNat (by omega)]
  rw [if_neg (by omega), if_neg (by omega), if_neg (by omega), if_pos (by omega),
    Nat.add_sub_cancel_left]
  congr 2 <;> split <;> split <;> omega

theorem first_four (high : Nat) (h : high < 5) :
    first (.ofNat (0xF0 + high)) = .opened ⟨high, 1, 3, if high = 0 then 0x90 else 0x80,
      if high = 4 then 0x8F else 0xBF⟩ := by
  rw [first, toNat_ofNat (by omega)]
  rw [if_neg (by omega), if_neg (by omega), if_neg (by omega), if_neg (by omega),
    if_pos (by omega), Nat.add_sub_cancel_left]
  congr 2 <;> split <;> split <;> omega

theorem decodeFrom_first {byte : UInt8} {o : Opened} (h : first byte = .opened o) (position : Nat)
    (rest : Bytes) :
    decodeFrom position none (byte :: rest) = decodeFrom (position + 1) (some (byte, o)) rest := by
  rw [decodeFrom]
  simp only [h]

theorem decodeFrom_next {byte lead : UInt8} {o o' : Opened} (h : o.next byte = .opened o')
    (position : Nat) (rest : Bytes) :
    decodeFrom position (some (lead, o)) (byte :: rest) =
      decodeFrom (position + 1) (some (lead, o')) rest := by
  rw [decodeFrom]
  simp only [h]

theorem decodeFrom_last {byte lead : UInt8} {o : Opened} {c : Char} (h : o.next byte = .char c)
    (position : Nat) (rest : Bytes) :
    decodeFrom position (some (lead, o)) (byte :: rest) =
      (decodeFrom (position + 1) none rest).map (c :: ·) := by
  rw [decodeFrom]
  simp only [h]

section Owed

variable {low high : Nat} (c : Char) (lead : UInt8) (taken position : Nat) (rest : Bytes)

theorem decodeFrom_owed_one (hlow : low ≤ 0x80 + c.toNat % 0x40)
    (hhigh : 0x80 + c.toNat % 0x40 ≤ high) :
    decodeFrom position (some (lead, ⟨c.toNat / 0x40, taken, 1, low, high⟩))
        (.ofNat (0x80 + c.toNat / 1 % 0x40) :: rest) =
      (decodeFrom (position + 1) none rest).map (c :: ·) := by
  apply decodeFrom_last
  rw [next_tail (by omega) (by omega) (by omega), if_pos (by omega)]
  rw [show c.toNat / 0x40 * 64 + c.toNat / 1 % 0x40 = c.toNat by omega, Char.ofNat_toNat]

theorem decodeFrom_owed_two (hlow : low ≤ 0x80 + c.toNat / 0x40 % 0x40)
    (hhigh : 0x80 + c.toNat / 0x40 % 0x40 ≤ high) :
    decodeFrom position (some (lead, ⟨c.toNat / 0x1000, taken, 2, low, high⟩))
        (.ofNat (0x80 + c.toNat / 0x40 % 0x40) :: .ofNat (0x80 + c.toNat / 1 % 0x40) :: rest) =
      (decodeFrom (position + 2) none rest).map (c :: ·) := by
  have hnext : Opened.next ⟨c.toNat / 0x1000, taken, 2, low, high⟩
      (.ofNat (0x80 + c.toNat / 0x40 % 0x40)) =
        .opened ⟨c.toNat / 0x40, taken + 1, 1, 0x80, 0xBF⟩ := by
    rw [next_tail (by omega) hlow hhigh, if_neg (by omega)]
    congr 2
    omega
  rw [decodeFrom_next hnext]
  exact decodeFrom_owed_one c lead _ _ rest (by omega) (by omega)

theorem decodeFrom_owed_three (hlow : low ≤ 0x80 + c.toNat / 0x1000 % 0x40)
    (hhigh : 0x80 + c.toNat / 0x1000 % 0x40 ≤ high) :
    decodeFrom position (some (lead, ⟨c.toNat / 0x40000, taken, 3, low, high⟩))
        (.ofNat (0x80 + c.toNat / 0x1000 % 0x40) :: .ofNat (0x80 + c.toNat / 0x40 % 0x40) ::
          .ofNat (0x80 + c.toNat / 1 % 0x40) :: rest) =
      (decodeFrom (position + 3) none rest).map (c :: ·) := by
  have hnext : Opened.next ⟨c.toNat / 0x40000, taken, 3, low, high⟩
      (.ofNat (0x80 + c.toNat / 0x1000 % 0x40)) =
        .opened ⟨c.toNat / 0x1000, taken + 1, 2, 0x80, 0xBF⟩ := by
    rw [next_tail (by omega) hlow hhigh, if_neg (by omega)]
    congr 2
    omega
  rw [decodeFrom_next hnext]
  exact decodeFrom_owed_two c lead _ _ rest (by omega) (by omega)

end Owed

/-- The bytes of a character are read as the character. -/
theorem decodeFrom_encodeChar (c : Char) (position : Nat) (rest : Bytes) :
    decodeFrom position none (encodeChar c ++ rest) =
      (decodeFrom (position + (encodeChar c).length) none rest).map (c :: ·) := by
  have hrange := toNat_range c
  rw [encodeChar]
  dsimp only
  by_cases hone : c.toNat < 0x80
  · rw [if_pos hone, List.singleton_append, decodeFrom]
    simp only [first_one hone, Char.ofNat_toNat, List.length_singleton]
  rw [if_neg hone]
  by_cases htwo : c.toNat < 0x800
  · rw [if_pos htwo, List.cons_append,
      decodeFrom_first (first_two (c.toNat / 0x40) (by omega) (by omega))]
    exact decodeFrom_owed_one c _ _ _ rest (by omega) (by omega)
  rw [if_neg htwo]
  -- the second byte is bound by more than its form where the first is the least or has surrogates
  by_cases hthree : c.toNat < 0x10000
  · rw [if_pos hthree, List.cons_append,
      decodeFrom_first (first_three (c.toNat / 0x1000) (by omega))]
    apply decodeFrom_owed_two c _ _ _ rest
    · split <;> omega
    · split <;> omega
  · rw [if_neg hthree, List.cons_append,
      decodeFrom_first (first_four (c.toNat / 0x40000) (by omega))]
    apply decodeFrom_owed_three c _ _ _ rest
    · split <;> omega
    · split <;> omega

theorem decodeFrom_encode (t : Text) (position : Nat) :
    decodeFrom position none (encode t) = .ok t := by
  induction t generalizing position with
  | nil => rfl
  | cons c rest ih =>
    rw [encode, List.flatMap_cons, decodeFrom_encodeChar]
    show Except.map (c :: ·) (decodeFrom _ none (encode rest)) = _
    rw [ih]
    rfl

/-- A written text is read as it is. -/
theorem decode_encode (t : Text) : decode (encode t) = .ok t := decodeFrom_encode t 0

/-- In a written text nothing is replaced. -/
theorem decodeLossy_encode (t : Text) : decodeLossy (encode t) = t :=
  decodeLossy_of_decode (decode_encode t)

end Retrace.Utf8

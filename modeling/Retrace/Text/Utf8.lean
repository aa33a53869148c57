import Retrace.Text.Basic

/-!
# UTF-8

Bytes of a text and back. A decoder stands either between characters or inside one, and takes one
byte at a time; which bytes may follow a first byte is decided by that byte, so that no character
has two spellings and no surrogate has any.

* `encode`: the bytes of a text;
* `decode`: the text of bytes, or where and why they are malformed (`UnicodeDecodeError`);
* `decodeLossy`: the text of any bytes, with one replacement character for every maximal malformed
  part (`errors="replace"`).

Main statement: `decodeLossy_of_decode`, on well-formed bytes the two decoders agree.
-/

namespace Retrace

/-- A row of bytes. -/
abbrev Bytes := List UInt8

namespace Utf8

/-- The bytes of a character. -/
def encodeChar (c : Char) : Bytes :=
  let n := c.toNat
  let tail (unit : Nat) : UInt8 := .ofNat (0x80 + n / unit % 0x40)
  if n < 0x80 then [.ofNat n]
  else if n < 0x800 then [.ofNat (0xC0 + n / 0x40), tail 1]
  else if n < 0x10000 then [.ofNat (0xE0 + n / 0x1000), tail 0x40, tail 1]
  else [.ofNat (0xF0 + n / 0x40000), tail 0x1000, tail 0x40, tail 1]

/-- The bytes of a text. -/
def encode (t : Text) : Bytes := t.flatMap encodeChar

/-- A character that has begun: its value so far, the bytes taken and still owed, and the range of
the next byte. -/
structure Opened where
  value : Nat
  taken : Nat
  owed : Nat
  low : Nat
  high : Nat

/-- What a byte does: it ends a character, leaves one open, or has no place. -/
inductive Step
  | char (c : Char)
  | opened (o : Opened)
  | refused

/-- A byte between characters. -/
def first (byte : UInt8) : Step :=
  let n := byte.toNat
  if n < 0x80 then .char (.ofNat n)
  else if n < 0xC2 then .refused
  else if n < 0xE0 then .opened ⟨n - 0xC0, 1, 1, 0x80, 0xBF⟩
  else if n < 0xF0 then
    .opened ⟨n - 0xE0, 1, 2, if n = 0xE0 then 0xA0 else 0x80, if n = 0xED then 0x9F else 0xBF⟩
  else if n < 0xF5 then
    .opened ⟨n - 0xF0, 1, 3, if n = 0xF0 then 0x90 else 0x80, if n = 0xF4 then 0x8F else 0xBF⟩
  else .refused

/-- A byte inside a character. -/
def Opened.next (o : Opened) (byte : UInt8) : Step :=
  let n := byte.toNat
  if o.low ≤ n ∧ n ≤ o.high then
    let value := o.value * 64 + (n - 0x80)
    if o.owed ≤ 1 then .char (.ofNat value)
    else .opened ⟨value, o.taken + 1, o.owed - 1, 0x80, 0xBF⟩
  else .refused

/-- Why bytes are malformed. -/
inductive Reason
  /-- A byte that starts no character. -/
  | invalidStart
  /-- A byte that cannot go on with the character before it. -/
  | invalidContinuation
  /-- The bytes end inside a character. -/
  | unexpectedEnd
  deriving DecidableEq

/-- The first malformed part: `size` bytes at `position`, the first of them `byte`. -/
structure Fault where
  position : Nat
  size : Nat
  byte : UInt8
  reason : Reason
  deriving DecidableEq

/-- The text of the bytes after `position`, of which the last `opened.taken` belong to a character
that begins with the byte `lead`. -/
def decodeFrom (position : Nat) (opened : Option (UInt8 × Opened)) :
    Bytes → Except Fault Text
  | [] =>
    match opened with
    | none => .ok []
    | some (lead, o) => .error ⟨position - o.taken, o.taken, lead, .unexpectedEnd⟩
  | byte :: rest =>
    match opened with
    | none =>
      match first byte with
      | .char c => (decodeFrom (position + 1) none rest).map (c :: ·)
      | .opened o => decodeFrom (position + 1) (some (byte, o)) rest
      | .refused => .error ⟨position, 1, byte, .invalidStart⟩
    | some (lead, o) =>
      match o.next byte with
      | .char c => (decodeFrom (position + 1) none rest).map (c :: ·)
      | .opened o' => decodeFrom (position + 1) (some (lead, o')) rest
      | .refused => .error ⟨position - o.taken, o.taken, lead, .invalidContinuation⟩

/-- The text of bytes. -/
def decode (bytes : Bytes) : Except Fault Text := decodeFrom 0 none bytes

/-- What stands for a malformed part. -/
def replacement : Char := '\uFFFD'

/-- The character of a code point; a surrogate without its partner is replaced. -/
def charOfCodePoint (n : Nat) : Char :=
  if 0xD800 ≤ n ∧ n ≤ 0xDFFF then replacement else .ofNat n

/-- The text of bytes after an opened character, malformed parts replaced. -/
def decodeLossyFrom (opened : Option Opened) : Bytes → Text
  | [] => if opened.isSome then [replacement] else []
  | byte :: rest =>
    match (opened.map fun o => o.next byte : Option Step) with
    | some (.char c) => c :: decodeLossyFrom none rest
    | some (.opened o) => decodeLossyFrom (some o) rest
    | other =>
      (if other.isSome then [replacement] else []) ++
        match first byte with
        | .char c => c :: decodeLossyFrom none rest
        | .opened o => decodeLossyFrom (some o) rest
        | .refused => replacement :: decodeLossyFrom none rest

/-- The text of any bytes, malformed parts replaced. -/
def decodeLossy (bytes : Bytes) : Text := decodeLossyFrom none bytes

theorem decodeLossyFrom_of_decodeFrom {position : Nat} {opened : Option (UInt8 × Opened)}
    {bytes : Bytes} {t : Text} (h : decodeFrom position opened bytes = .ok t) :
    decodeLossyFrom (opened.map (·.2)) bytes = t := by
  induction bytes generalizing position opened t with
  | nil =>
    cases opened with
    | none => simpa [decodeFrom, decodeLossyFrom] using h
    | some pair => simp [decodeFrom] at h
  | cons byte rest ih =>
    have emit : ∀ c, (decodeFrom (position + 1) none rest).map (c :: ·) = .ok t →
        c :: decodeLossyFrom none rest = t := by
      intro c hc
      cases hd : decodeFrom (position + 1) none rest with
      | error fault => rw [hd] at hc; simp [Except.map] at hc
      | ok u =>
        rw [hd] at hc
        simp only [Except.map, Except.ok.injEq] at hc
        rw [← hc, ← ih hd]
        rfl
    cases opened with
    | none =>
      cases hf : first byte with
      | char c =>
        rw [decodeFrom] at h; simp only [hf] at h
        simpa [decodeLossyFrom, hf] using emit c h
      | opened o =>
        rw [decodeFrom] at h; simp only [hf] at h
        simpa [decodeLossyFrom, hf] using ih h
      | refused => rw [decodeFrom] at h; simp [hf] at h
    | some pair =>
      obtain ⟨lead, o⟩ := pair
      cases hn : o.next byte with
      | char c =>
        rw [decodeFrom] at h; simp only [hn] at h
        simpa [decodeLossyFrom, hn] using emit c h
      | opened o' =>
        rw [decodeFrom] at h; simp only [hn] at h
        simpa [decodeLossyFrom, hn] using ih h
      | refused => rw [decodeFrom] at h; simp [hn] at h

/-- On well-formed bytes nothing is replaced. -/
theorem decodeLossy_of_decode {bytes : Bytes} {t : Text} (h : decode bytes = .ok t) :
    decodeLossy bytes = t :=
  decodeLossyFrom_of_decodeFrom h

/-- The wording of a fault. -/
def Fault.message (f : Fault) : String :=
  let reason :=
    match f.reason with
    | .invalidStart => "invalid start byte"
    | .invalidContinuation => "invalid continuation byte"
    | .unexpectedEnd => "unexpected end of data"
  if f.size = 1 then
    let digits := String.ofList (Nat.toDigits 16 f.byte.toNat)
    s!"'utf-8' codec can't decode byte 0x{digits} in position {f.position}: {reason}"
  else
    let last := f.position + f.size - 1
    s!"'utf-8' codec can't decode bytes in position {f.position}-{last}: {reason}"

end Utf8

end Retrace

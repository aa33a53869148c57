import Retrace.Text.Printable

/-!
# Quoted texts

A text as a literal between quotes (`repr`), in messages that show a text as it came. Single quotes
are used unless the text has a single quote and no double quote. The quote itself, the backslash and
the characters that are not printable are escaped, each code point by the shortest of three
hexadecimal forms.

Main statement: `quoted_plain`, a text of printable characters without quotes and backslashes
stands between single quotes unchanged.
-/

namespace Retrace

/-- The digit of a value below sixteen, in lower case. -/
def hexDigit (n : Nat) : Char := if n < 10 then Char.ofNat (48 + n) else Char.ofNat (87 + n)

/-- The last `width` hexadecimal digits of a number. -/
def hexDigits : Nat → Nat → Text
  | 0, _ => []
  | width + 1, n => hexDigits width (n / 16) ++ [hexDigit (n % 16)]

namespace Text

/-- The quote that a text is shown between. -/
def quoteOf (t : Text) : Char := if '\'' ∈ t ∧ '"' ∉ t then '"' else '\''

/-- The code point of a character in the shortest of three hexadecimal forms. -/
def codeEscape (c : Char) : Text :=
  if c.toNat < 0x100 then '\\' :: 'x' :: hexDigits 2 c.toNat
  else if c.toNat < 0x10000 then '\\' :: 'u' :: hexDigits 4 c.toNat
  else '\\' :: 'U' :: hexDigits 8 c.toNat

/-- One character between the given quotes. -/
def escaped (quote c : Char) : Text :=
  if c = quote ∨ c = '\\' then ['\\', c]
  else if c = '\n' then ['\\', 'n']
  else if c = '\r' then ['\\', 'r']
  else if c = '\t' then ['\\', 't']
  else if isPrintable c then [c]
  else codeEscape c

/-- A text with the characters outside ASCII given by their code points. -/
def inAscii (t : Text) : Text := t.flatMap fun c => if c.toNat < 0x80 then [c] else codeEscape c

/-- A text between quotes. -/
def quoted (t : Text) : Text :=
  quoteOf t :: (t.flatMap (escaped (quoteOf t)) ++ [quoteOf t])

/-- One byte between the given quotes: in ASCII as its character, else by its number. -/
def escapedByte (quote : Char) (byte : UInt8) : Text :=
  if byte.toNat < 0x80 then escaped quote (.ofNat byte.toNat)
  else '\\' :: 'x' :: hexDigits 2 byte.toNat

/-- Bytes between quotes, after the letter that tells them from a text. -/
def quotedBytes (bytes : List UInt8) : Text :=
  let quote := quoteOf (bytes.map fun byte => Char.ofNat byte.toNat)
  'b' :: quote :: (bytes.flatMap (escapedByte quote) ++ [quote])

theorem quoted_plain {t : Text}
    (h : ∀ c ∈ t, isPrintable c = true ∧ c ≠ '\'' ∧ c ≠ '\\' ∧ c ≠ '\n' ∧ c ≠ '\r' ∧ c ≠ '\t') :
    quoted t = '\'' :: (t ++ ['\'']) := by
  have hq : quoteOf t = '\'' := by
    rw [quoteOf, if_neg]
    exact fun hin => (h _ hin.1).2.1 rfl
  have hmap : t.flatMap (escaped '\'') = t := by
    clear hq
    induction t with
    | nil => rfl
    | cons c rest ih =>
      obtain ⟨hprint, hquote, hslash, hn, hr, ht⟩ := h c (by simp)
      have hrest := ih fun x hx => h x (by simp [hx])
      simp [List.flatMap_cons, hrest, escaped, hprint, hquote, hslash, hn, hr, ht]
  rw [quoted, hq, hmap]

end Text

end Retrace

import Retrace.Text.Basic

/-!
# Blank characters

The white space of Unicode as it counts for trimming (`str.strip`, `str.isspace`): separators of any
kind and the control characters that move the cursor. A zero width space is not blank.

Main statement: `isBlank_of_isWhitespace`, the white space of ASCII is blank.
-/

namespace Retrace

/-- Whether a character is blank. -/
def isBlank (c : Char) : Bool :=
  let n := c.toNat
  (9 ≤ n && n ≤ 13) || (28 ≤ n && n ≤ 32) || n == 0x85 || n == 0xA0 || n == 0x1680
    || (0x2000 ≤ n && n ≤ 0x200A) || n == 0x2028 || n == 0x2029 || n == 0x202F || n == 0x205F
    || n == 0x3000

/-- Whether a character is white space proper: a blank that does not separate units of data. -/
def isWhiteSpace (c : Char) : Bool := isBlank c && !(28 ≤ c.toNat && c.toNat ≤ 31)

theorem isBlank_of_isWhitespace {c : Char} (h : c.isWhitespace = true) : isBlank c = true := by
  simp only [Char.isWhitespace, Bool.or_eq_true, decide_eq_true_eq] at h
  rcases h with ((h | h) | h) | h <;> subst h <;> decide

namespace Text

/-- A text without the blanks at its start. -/
def trimStart (t : Text) : Text := t.dropWhile isBlank

/-- A text without the blanks at its end. -/
def trimEnd (t : Text) : Text := dropEndWhile isBlank t

/-- A text without the blanks at either end. -/
def trim (t : Text) : Text := trimEnd (trimStart t)

/-- A text without the white space proper at either end. -/
def strip (t : Text) : Text := dropEndWhile isWhiteSpace (t.dropWhile isWhiteSpace)

end Text

end Retrace

import Retrace.Text.Percent
import Retrace.Yaml.Fault

/-!
# Cursors in YAML texts

A cursor knows what is left of a text and where that starts, like the reader of `yaml.safe_load`.
Line feed, carriage return and next line end a line alike; the line and paragraph separators end one
too and are kept as they are.

* `Cursor`, `Cursor.step`, `Cursor.advance`;
* `Cursor.lineBreak`: the line end at a cursor.

Main statement: `length_rest_step`, a step leaves less of a text.
-/

namespace Retrace.Yaml

/-- Whether a character ends a line. -/
def isBreak (c : Char) : Bool :=
  c == '\n' || c == '\r' || c == '\x85' || c == '\u2028' || c == '\u2029'

/-- Whether a character is a space or a tab. -/
def isSpace (c : Char) : Bool := c == ' ' || c == '\t'

/-- Whether a line ends here: at the end of the text, or at a character that ends a line. -/
def isLineEndAt : Option Char → Bool
  | none => true
  | some c => isBreak c

/-- A text without the line feed that it may end with. -/
def withoutLineEnd (t : Text) : Text := if t.getLast? = some '\n' then t.dropLast else t

/-- Whether a token ends here: at the end of a line, or at a space or a tab. -/
def isGapAt : Option Char → Bool
  | none => true
  | some c => isSpace c || isBreak c

/-- Whether a character may stand in a text. -/
def isAllowed (c : Char) : Bool :=
  let n := c.toNat
  n == 9 || n == 10 || n == 13 || (0x20 ≤ n && n ≤ 0x7E) || n == 0x85 || (0xA0 ≤ n && n ≤ 0xD7FF)
    || (0xE000 ≤ n && n ≤ 0xFFFD) || 0x10000 ≤ n

/-- What is left of a text, and the index, line and column where that starts. -/
structure Cursor where
  rest : Text
  index : Nat
  line : Nat
  column : Nat

namespace Cursor

/-- The cursor at the start of a text. -/
def ofText (t : Text) : Cursor := ⟨t, 0, 0, 0⟩

/-- The character a number of places ahead. -/
def peek (c : Cursor) (ahead : Nat) : Option Char := c.rest[ahead]?

/-- Whether a character is next. -/
def sees (c : Cursor) (x : Char) : Bool := c.peek 0 == some x

/-- The cursor after the next character. A carriage return ends a line unless a line feed
follows. -/
def step (c : Cursor) : Cursor :=
  match c.rest with
  | [] => c
  | x :: rest =>
    if isBreak x && !(x == '\r' && rest.head? == some '\n') then ⟨rest, c.index + 1, c.line + 1, 0⟩
    else ⟨rest, c.index + 1, c.line, if x = '\uFEFF' then c.column else c.column + 1⟩

/-- The cursor after a number of characters. -/
def advance (c : Cursor) : Nat → Cursor
  | 0 => c
  | n + 1 => c.step.advance n

/-- A step leaves less of a text. -/
theorem length_rest_step (c : Cursor) : c.step.rest.length = c.rest.length - 1 := by
  unfold step
  split
  · rename_i h
    simp [h]
  · rename_i h
    split <;> simp [h]

/-- The characters of a class that come next. -/
def run (c : Cursor) (p : Char → Bool) : Text := c.rest.takeWhile p

/-- The cursor after the characters of a class. -/
def skip (c : Cursor) (p : Char → Bool) : Cursor := c.advance (c.run p).length

/-- The cursor after the comment that may come next. -/
def skipComment (c : Cursor) : Cursor := if c.sees '#' then c.skip (!isBreak ·) else c

/-- The text that the line end at the cursor stands for, nothing if there is none, and the cursor
after it. -/
def lineBreak (c : Cursor) : Text × Cursor :=
  match c.rest with
  | '\r' :: '\n' :: _ => (['\n'], c.advance 2)
  | x :: _ =>
    if x = '\u2028' ∨ x = '\u2029' then ([x], c.step)
    else if isBreak x then (['\n'], c.step)
    else ([], c)
  | [] => ([], c)

/-- Whether three characters of a kind, which mark a document, come next. -/
def seesMark (c : Cursor) (x : Char) : Bool :=
  c.rest.take 3 == [x, x, x] && isGapAt (c.peek 3)

/-- Whether the start or the end of a document is marked here. -/
def seesDocumentMark (c : Cursor) : Bool := c.seesMark '-' || c.seesMark '.'

end Cursor

end Retrace.Yaml

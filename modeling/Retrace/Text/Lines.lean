import Retrace.Text.Basic

/-!
# Lines

Two ways to see lines in a text. `Text.lines` (`str.splitlines`) ends a line at any of the line
boundaries of Unicode, with a carriage return and the line feed after it counted as one boundary,
and sees no further line after a boundary at the end. `Text.pieces` at a line feed, from
`Retrace.Text.Basic`, is the view of files, where only a line feed counts.
-/

namespace Retrace

/-- Whether a character ends a line: line feed, vertical tab, form feed, carriage return, the file,
group and record separators, next line, and the line and paragraph separators. -/
def isLineEnd (c : Char) : Bool :=
  let n := c.toNat
  (10 ≤ n && n ≤ 13) || (28 ≤ n && n ≤ 30) || n == 0x85 || n == 0x2028 || n == 0x2029

namespace Text

/-- The lines of a text after the characters `opened` of the line that is being read, in reverse. -/
def linesFrom (opened : Text) : Text → List Text
  | [] => if opened.isEmpty then [] else [opened.reverse]
  | '\r' :: '\n' :: rest => opened.reverse :: linesFrom [] rest
  | c :: rest =>
    if isLineEnd c then opened.reverse :: linesFrom [] rest else linesFrom (c :: opened) rest

/-- The lines of a text, without their ends. -/
def lines (t : Text) : List Text := linesFrom [] t

@[simp] theorem lines_nil : lines [] = [] := rfl

/-- A text with every carriage return, and every pair of a carriage return and a line feed, made
one line feed: the view of a text file that was opened for reading. -/
def unifyLineEnds : Text → Text
  | [] => []
  | '\r' :: '\n' :: rest => '\n' :: unifyLineEnds rest
  | c :: rest => (if c = '\r' then '\n' else c) :: unifyLineEnds rest

end Text

end Retrace

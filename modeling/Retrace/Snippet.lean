import Retrace.Text.Utf8

/-!
# Snippets

A window of the lines of a text around a line, as `extract` cuts it. Only line feeds end a line
here. A target that counts from one stands at the place `target - 1 - start` of its window.

* `Snippet.extract`: the window with a number of lines on each side;
* `Snippet.extractBytes`: the same for the bytes of a text.

Main statement: `extract_bounds`, a window lies inside its text.
-/

namespace Retrace

/-- The lines from `start` to `stop` of a text, exclusive, and their text. -/
structure Snippet where
  code : Text
  start : Int
  stop : Int
  deriving DecidableEq

namespace Snippet

/-- The number of lines on each side unless another is asked for. -/
def defaultRadius : Int := 10

/-- The first line of a window in a text of `total` lines. -/
def startOf (total : Nat) (target radius : Int) : Int := min (max (target - radius) 0) total

/-- The line after the last of a window in a text of `total` lines. -/
def stopOf (total : Nat) (target radius : Int) : Int :=
  max (min (target + radius) total) (startOf total target radius)

/-- The window of a text around a line. -/
def extract (t : Text) (target radius : Int) : Snippet :=
  let lines := t.pieces '\n'
  let start := startOf lines.length target radius
  let stop := stopOf lines.length target radius
  ⟨Text.joined ['\n'] ((lines.drop start.toNat).take (stop - start).toNat), start, stop⟩

/-- The window of the text of bytes around a line. -/
def extractBytes (bytes : Bytes) (target radius : Int) : Snippet :=
  extract (Utf8.decodeLossy bytes) target radius

/-- A window lies inside its text. -/
theorem extract_bounds (t : Text) (target radius : Int) :
    0 ≤ (extract t target radius).start ∧
      (extract t target radius).start ≤ (extract t target radius).stop ∧
        (extract t target radius).stop ≤ (t.pieces '\n').length := by
  simp only [extract, startOf, stopOf]
  omega

/-- Whether a line that counts from one is in the window. -/
def shows (s : Snippet) (line : Int) : Bool := s.start ≤ line - 1 ∧ line - 1 < s.stop

end Snippet

end Retrace

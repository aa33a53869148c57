import Retrace.Frame.Line
import Retrace.Frame.Record
import Retrace.Text.Lines

/-!
# Stacks

A stack is the text of an error: a header line and then a line for every frame, with lines in
between that are no frames. Frames also come as lists of records. What is no frame is left out and
noted with its place, as `StackParser.parse` and `StackParser.parse_records` do it.

* `Sifted`: the frames and the rejections of a list of readings;
* `Sifted.ofStack`, `Sifted.ofRecords`.

Main statement: `outcome_sift`, the frames are those of the readings that are not rejected, or the
first numeral that cannot be converted.
-/

namespace Retrace

/-- What comes of sifting readings: what was rejected, with its number, and the frames, unless a
numeral could not be converted. -/
structure Sifted where
  rejections : List (Nat × Rejection)
  outcome : Except NumeralFault (List RawFrame)

/-- A reading: a frame or why there is none, and nothing for a blank line. -/
abbrev FrameReading := Option (Except FrameFault RawFrame)

namespace Sifted

/-- Readings sifted, the first of them with a number. -/
def sift (number : Nat) : List FrameReading → Sifted
  | [] => ⟨[], .ok []⟩
  | none :: rest => sift (number + 1) rest
  | some (.ok raw) :: rest =>
    let sifted := sift (number + 1) rest
    ⟨sifted.rejections, sifted.outcome.map (raw :: ·)⟩
  | some (.error (.rejected reason)) :: rest =>
    let sifted := sift (number + 1) rest
    ⟨(number, reason) :: sifted.rejections, sifted.outcome⟩
  | some (.error (.numeral fault)) :: _ => ⟨[], .error fault⟩

/-- The frame of a reading, nothing for one that is left out. -/
def kept? : FrameReading → Except NumeralFault (Option RawFrame)
  | none => .ok none
  | some (.ok raw) => .ok (some raw)
  | some (.error (.rejected _)) => .ok none
  | some (.error (.numeral fault)) => .error fault

/-- The frames of readings in order, without those that are left out. -/
def keptAll : List FrameReading → Except NumeralFault (List RawFrame)
  | [] => .ok []
  | reading :: rest => do
    let kept ← kept? reading
    let frames ← keptAll rest
    .ok (kept.toList ++ frames)

/-- Sifting keeps what is not left out. -/
theorem outcome_sift (number : Nat) (readings : List FrameReading) :
    (sift number readings).outcome = keptAll readings := by
  fun_induction sift number readings with
  | case1 => rfl
  | case2 number rest ih =>
    rw [keptAll, ih]
    cases keptAll rest <;> rfl
  | case3 number raw rest sifted ih =>
    rw [keptAll, ← ih]
    cases sifted.outcome <;> simp [kept?, bind, Except.bind, Except.map]
  | case4 number reason rest sifted ih =>
    rw [keptAll, ← ih]
    cases sifted.outcome <;> simp [kept?, bind, Except.bind]
  | case5 => rfl

/-- The lines of a stack after its header. -/
def frameLines (stack : Text) : List Text := stack.lines.drop 1

/-- The reading of a line of a stack. -/
def lineReading (line : Text) : FrameReading :=
  if line.trim.isEmpty then none else some (RawFrame.ofLine line)

/-- The frames of a stack; its header is line one. -/
def ofStack (stack : Text) : Sifted := sift 2 ((frameLines stack).map lineReading)

/-- The frames of records, which count from zero. -/
def ofRecords (records : List Json) : Sifted :=
  sift 0 (records.map fun record => some (RawFrame.ofRecord record))

end Sifted

end Retrace

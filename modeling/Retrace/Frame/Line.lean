import Retrace.Frame.Basic

/-!
# Lines of a stack

A line of a stack names a call in one of three ways, after the word `at`. They are the patterns of
`StackParser.parse_line`:

* a name and, in parentheses, that its place is not known;
* a name and, in parentheses, a file, a line and a column;
* a file, a line and a column alone.

Blanks may stand before and after. A name has no opening parenthesis and a file without a name no
parentheses at all, so a line can be read in one way only: the first opening parenthesis ends the
name, and the two numbers are the last two runs of digits.

* `FrameLine`: the parts of a line; `FrameLine.read?`, `FrameLine.write`: reading and writing;
* `RawFrame.ofLine`: the raw frame of a line.

Main statement: `cutPosition?_eq_some`, which says how a text ends in a number after a colon.
-/

namespace Retrace

/-- The parts of a line of a stack; line and column are texts of decimal digits. -/
inductive FrameLine
  | placeless (name : Text)
  | named (name file line column : Text)
  | nameless (file line column : Text)
  deriving DecidableEq

/-- The text before a colon and the decimal digits after it that a text ends with. -/
def cutPosition? (t : Text) : Option (Text × Text) :=
  let digits := t.takeEndWhile isDecimal
  let before := t.dropEndWhile isDecimal
  if digits.isEmpty then none
  else if before.getLast? = some ':' then some (before.dropLast, digits)
  else none

/-- A text that ends in a number after a colon is the part before, the colon and its digits. -/
theorem cutPosition?_eq_some {t before digits : Text} (h : cutPosition? t = some (before, digits)) :
    t = before ++ ':' :: digits ∧ digits ≠ [] ∧ ∀ c ∈ digits, isDecimal c = true := by
  simp only [cutPosition?] at h
  split at h
  · cases h
  · rename_i hne
    split at h
    · rename_i hcolon
      simp only [Option.some.injEq, Prod.mk.injEq] at h
      obtain ⟨rfl, rfl⟩ := h
      refine ⟨?_, by simpa using hne, ?_⟩
      · obtain ⟨before, hbefore⟩ := List.getLast?_eq_some_iff.1 hcolon
        have hsplit := Text.dropEndWhile_append_takeEndWhile isDecimal t
        rw [hbefore] at hsplit
        rw [hbefore, List.dropLast_concat]
        simpa using hsplit.symm
      · intro c hc
        rw [Text.takeEndWhile, List.mem_reverse] at hc
        exact List.all_eq_true.1 List.all_takeWhile c hc
    · cases h

/-- The file, line and column that a text is made of. -/
def place? (t : Text) : Option (Text × Text × Text) :=
  match cutPosition? t with
  | none => none
  | some (rest, column) =>
    match cutPosition? rest with
    | none => none
    | some (file, line) => if file.isEmpty then none else some (file, line, column)

namespace FrameLine

/-- What stands in parentheses when a place is not known. -/
def unknownPlace : Text := "<anonymous>".toList

/-- The parts of what follows the word `at` if it has a name: the name ends before the first
opening parenthesis and the space before that, and the closing parenthesis ends the line. -/
def readNamed? (t : Text) : Option FrameLine :=
  match Text.cutAt? '(' t with
  | none => none
  | some (before, after) =>
    let name := before.dropLast
    let inner := Text.trimEnd after
    if before.getLast? = some ' ' ∧ name ≠ [] ∧ inner.getLast? = some ')' then
      let content := inner.dropLast
      if content = unknownPlace then some (.placeless name)
      else
        match place? content with
        | none => none
        | some (file, line, column) =>
          if '\n' ∈ file then none else some (.named name file line column)
    else none

/-- The parts of what follows the word `at` if it has no name. -/
def readNameless? (t : Text) : Option FrameLine :=
  match place? t.trimEnd with
  | none => none
  | some (file, line, column) =>
    if '(' ∈ file ∨ ')' ∈ file then none else some (.nameless file line column)

/-- The parts of a line of a stack. -/
def read? (t : Text) : Option FrameLine :=
  match Text.afterPrefix? "at ".toList t.trimStart with
  | none => none
  | some rest => (readNamed? rest).or (readNameless? rest)

/-- The line with the given parts. -/
def write : FrameLine → Text
  | .placeless name => "    at ".toList ++ name ++ " (".toList ++ unknownPlace ++ [')']
  | .named name file line column =>
    "    at ".toList ++ name ++ " (".toList ++ file ++ ':' :: line ++ ':' :: column ++ [')']
  | .nameless file line column => "    at ".toList ++ file ++ ':' :: line ++ ':' :: column

/-- The raw frame with the given parts. -/
def toRawFrame : FrameLine → Except FrameFault RawFrame
  | .placeless name => RawFrame.create (.str name) .null .null .null
  | .named name file line column =>
    RawFrame.create (.str name) (.str file) (.str line) (.str column)
  | .nameless file line column => RawFrame.create .null (.str file) (.str line) (.str column)

end FrameLine

/-- The raw frame of a line of a stack. -/
def RawFrame.ofLine (t : Text) : Except FrameFault RawFrame :=
  match FrameLine.read? t with
  | some parts => parts.toRawFrame
  | none => .error (.rejected (.notFrameLine t))

end Retrace

import Retrace.Yaml.Cursor

/-!
# Scalars in YAML texts

The three ways of writing a text, as the scanner of `yaml.safe_load` reads them: plain, in quotes,
and as a block. A line end inside a plain or quoted scalar stands for a space, and empty lines for
line feeds; in a block all or some of the line ends are kept.

* `plainScalar`, `quotedScalar`, `blockScalar`: the scalar at a cursor, and the cursor after it.
-/

namespace Retrace.Yaml

/-! ### Plain scalars -/

/-- Whether a character is one of those that structure a flow collection. -/
def isFlowMark (c : Char) : Bool := c == ',' || c == '[' || c == ']' || c == '\x7b' || c == '\x7d'

/-- How many characters of a plain scalar come next. -/
def plainRun (flow : Bool) : Text → Nat
  | [] => 0
  | x :: rest =>
    let colonEnds := isGapAt rest.head? || (flow && rest.head?.any isFlowMark)
    let flowEnds := flow && (isFlowMark x || x == '?')
    if isSpace x || isBreak x || (x == ':' && colonEnds) || flowEnds then 0
    else plainRun flow rest + 1

/-- Empty lines: the line ends in them, and the cursor after them. Nothing if a document is marked
there. -/
def emptyLines : Nat → Text → Cursor → Option (Text × Cursor)
  | 0, breaks, c => some (breaks, c)
  | fuel + 1, breaks, c =>
    let c := c.skip (· == ' ')
    if (c.peek 0).any isBreak then
      let (text, after) := c.lineBreak
      if after.seesDocumentMark then none else emptyLines fuel (breaks ++ text) after
    else some (breaks, c)

/-- What a line end stands for when `breaks` are the ends of the empty lines after it. -/
def folded (lineBreak breaks : Text) : Text :=
  if lineBreak ≠ ['\n'] then lineBreak ++ breaks
  else if breaks.isEmpty then [' ']
  else breaks

/-- The space after a part of a plain scalar, the cursor after it, and whether a line ended. -/
def plainSpace (c : Cursor) : Text × Cursor × Bool :=
  let spaces := c.run (· == ' ')
  let c := c.skip (· == ' ')
  if (c.peek 0).any isBreak then
    let (text, after) := c.lineBreak
    if after.seesDocumentMark then ([], after, true)
    else
      match emptyLines (after.rest.length + 1) [] after with
      | none => ([], after, true)
      | some (breaks, after) => (folded text breaks, after, true)
  else (spaces, c, false)

/-- The rest of a plain scalar, the cursor after it, and whether a line ended since its last
part. -/
def plainFrom (flow : Bool) (indent : Int) : Nat → Text → Text → Bool → Cursor →
    Text × Cursor × Bool
  | 0, taken, _, ended, c => (taken, c, ended)
  | fuel + 1, taken, space, ended, c =>
    let length := plainRun flow c.rest
    if c.sees '#' || length = 0 then (taken, c, ended)
    else
      let taken := taken ++ space ++ c.rest.take length
      let (space, after, ended) := plainSpace (c.advance length)
      if space.isEmpty || after.sees '#' || (!flow && (after.column : Int) < indent) then
        (taken, after, ended)
      else plainFrom flow indent fuel taken space ended after

/-- The plain scalar at a cursor, the cursor after it, and whether a line ended there. In a block
its lines start at a column or behind. -/
def plainScalar (flow : Bool) (indent : Int) (c : Cursor) : Text × Cursor × Bool :=
  plainFrom flow indent (c.rest.length + 1) [] [] false c

/-! ### Quoted scalars -/

/-- The character that a letter after a backslash writes. -/
def escapedLetter? : Char → Option Char
  | '0' => some '\x00'
  | 'a' => some '\x07'
  | 'b' => some '\x08'
  | 't' => some '\t'
  | '\t' => some '\t'
  | 'n' => some '\n'
  | 'v' => some '\x0b'
  | 'f' => some '\x0c'
  | 'r' => some '\r'
  | 'e' => some '\x1b'
  | ' ' => some ' '
  | '"' => some '"'
  | '\\' => some '\\'
  | '/' => some '/'
  | 'N' => some '\x85'
  | '_' => some '\xa0'
  | 'L' => some '\u2028'
  | 'P' => some '\u2029'
  | _ => none

/-- The number of hexadecimal digits after a letter that starts a code. -/
def codeLength? : Char → Option Nat
  | 'x' => some 2
  | 'u' => some 4
  | 'U' => some 8
  | _ => none

/-- The number that hexadecimal digits write. -/
def hexNumber? (digits : Text) : Option Nat :=
  digits.foldl (fun n c => match n, hexValue? c with
    | some n, some d => some (16 * n + d)
    | _, _ => none) (some 0)

/-- The ends of the empty lines in a quoted scalar, and the cursor after them. -/
def quotedBreaks : Nat → Text → Cursor → Except Fault (Text × Cursor)
  | 0, breaks, c => .ok (breaks, c)
  | fuel + 1, breaks, c =>
    if c.seesDocumentMark then .error .quoteUnfinished
    else
      let c := c.skip isSpace
      if (c.peek 0).any isBreak then
        let (text, after) := c.lineBreak
        quotedBreaks fuel (breaks ++ text) after
      else .ok (breaks, c)

/-- What the space at a cursor in a quoted scalar stands for, and the cursor after it. -/
def quotedSpace (c : Cursor) : Except Fault (Text × Cursor) :=
  let spaces := c.run isSpace
  let c := c.skip isSpace
  match c.peek 0 with
  | none => .error .quoteUnfinished
  | some x =>
    if isBreak x then do
      let (text, after) := c.lineBreak
      let (breaks, after) ← quotedBreaks (after.rest.length + 1) [] after
      .ok (folded text breaks, after)
    else .ok (spaces, c)

/-- The least number past the codes of all characters. -/
def codeBound : Nat := 0x110000

/-- The least number past all signed words. -/
def wordBound : Nat := 0x80000000

/-- What the escape behind a backslash stands for, and the cursor after it. -/
def escape (c : Cursor) : Except Fault (Text × Cursor) :=
  match c.peek 0 with
  | none => .error .escape
  | some x =>
    match escapedLetter? x, codeLength? x with
    | some written, _ => .ok ([written], c.step)
    | none, some length =>
      let digits := c.step.rest.take length
      match hexNumber? digits with
      | some code =>
        if digits.length ≠ length then .error .escape
        else if wordBound ≤ code then .error (.scalar .pastWords)
        else if codeBound ≤ code then .error (.scalar .pastCharacters)
        else .ok ([Utf8.charOfCodePoint code], c.step.advance length)
      | none => .error .escape
    | none, none =>
      if isBreak x then quotedBreaks (c.rest.length + 1) [] c.lineBreak.2 else .error .escape

/-- The rest of a quoted scalar. In double quotes a backslash escapes; in single quotes a quote is
written twice. -/
def quotedFrom (quote : Char) : Nat → Text → Cursor → Except Fault (Text × Cursor)
  | 0, _, _ => .error .quoteUnfinished
  | fuel + 1, taken, c =>
    match c.peek 0 with
    | none => .error .quoteUnfinished
    | some x =>
      if x = quote then
        if quote = '\'' ∧ c.peek 1 = some '\'' then
          quotedFrom quote fuel (taken ++ [x]) (c.advance 2)
        else .ok (taken, c.step)
      else if quote = '"' ∧ x = '\\' then do
        let (text, after) ← escape c.step
        quotedFrom quote fuel (taken ++ text) after
      else if isSpace x || isBreak x then do
        let (text, after) ← quotedSpace c
        quotedFrom quote fuel (taken ++ text) after
      else quotedFrom quote fuel (taken ++ [x]) c.step

/-- The quoted scalar that the quote at a cursor opens, and the cursor after it. -/
def quotedScalar (quote : Char) (c : Cursor) : Except Fault (Text × Cursor) :=
  quotedFrom quote (c.rest.length + 1) [] c.step

/-! ### Block scalars -/

/-- Which of the line ends at the end of a block are kept. -/
inductive Chomping
  /-- None of them. -/
  | strip
  /-- The first one. -/
  | clip
  /-- All of them. -/
  | keep
  deriving DecidableEq

/-- The chomping that a character asks for. -/
def chomping? : Char → Option Chomping
  | '+' => some .keep
  | '-' => some .strip
  | _ => none

/-- The indentation that a character asks for. -/
def indentation? (c : Char) : Option Nat := if c.isDigit then some (c.toNat - 48) else none

/-- The chomping and the indentation that the head of a block asks for, in either order, and the
cursor after them. -/
def blockHead (c : Cursor) : Except Fault (Chomping × Option Nat × Cursor) :=
  let first := (c.peek 0).bind chomping?
  let c := if first.isSome then c.step else c
  let indentation := (c.peek 0).bind indentation?
  let c := if indentation.isSome then c.step else c
  let second := if first.isNone && indentation.isSome then (c.peek 0).bind chomping? else none
  let c := if second.isSome then c.step else c
  if indentation = some 0 then .error .blockHeader
  else if isGapAt (c.peek 0) && !c.sees '\t' then
    let c := (c.skip (· == ' ')).skipComment
    if isLineEndAt (c.peek 0) then .ok ((first.or second).getD .clip, indentation, c.lineBreak.2)
    else .error .blockHeader
  else .error .blockHeader

/-- The cursor after the spaces that indent a line, up to a column. -/
def skipIndent (indent : Int) (c : Cursor) : Cursor :=
  c.advance (min (c.run (· == ' ')).length (indent - c.column).toNat)

/-- The ends of the empty lines in a block that is indented to a column, and the cursor after
them. -/
def blockBreaks (indent : Int) : Nat → Text → Cursor → Text × Cursor
  | 0, breaks, c => (breaks, c)
  | fuel + 1, breaks, c =>
    let c := skipIndent indent c
    if (c.peek 0).any isBreak then
      let (text, after) := c.lineBreak
      blockBreaks indent fuel (breaks ++ text) after
    else (breaks, c)

/-- The ends of the empty lines that a block starts with, the greatest column of their spaces, and
the cursor after them. -/
def blockLead : Nat → Text → Nat → Cursor → Text × Nat × Cursor
  | 0, breaks, greatest, c => (breaks, greatest, c)
  | fuel + 1, breaks, greatest, c =>
    let c := c.skip (· == ' ')
    let greatest := max greatest c.column
    if (c.peek 0).any isBreak then
      let (text, after) := c.lineBreak
      blockLead fuel (breaks ++ text) greatest after
    else (breaks, greatest, c)

/-- The lines of a block that is indented to a column: their text, the last line end, the ends of
the empty lines after it, and the cursor after them. -/
def blockLines (folds : Bool) (indent : Int) : Nat → Text → Text → Cursor →
    Text × Text × Text × Cursor
  | 0, taken, breaks, c => (taken, [], breaks, c)
  | fuel + 1, taken, breaks, c =>
    let flush := !(c.peek 0).any isSpace
    let line := c.run (!isBreak ·)
    let taken := taken ++ breaks ++ line
    let (text, after) := (c.advance line.length).lineBreak
    let (breaks, after) := blockBreaks indent (after.rest.length + 1) [] after
    if (after.column : Int) = indent ∧ (after.peek 0).isSome then
      let joint : Text :=
        if folds && text == ['\n'] && flush && !(after.peek 0).any isSpace then
          if breaks.isEmpty then [' '] else []
        else text
      blockLines folds indent fuel (taken ++ joint) breaks after
    else (taken, text, breaks, after)

/-- The block scalar behind the mark at a cursor, inside a block that is indented to a column, and
the cursor after it. -/
def blockScalar (folds : Bool) (outer : Int) (c : Cursor) : Except Fault (Text × Cursor) := do
  let (chomping, indentation, c) ← blockHead c.step
  let least := max (outer + 1) 1
  let fuel := c.rest.length + 1
  let (breaks, indent, c) : Text × Int × Cursor :=
    match indentation with
    | some indentation =>
      let indent := least + indentation - 1
      let (breaks, c) := blockBreaks indent fuel [] c
      (breaks, indent, c)
    | none =>
      let (breaks, greatest, c) := blockLead fuel [] 0 c
      (breaks, max least greatest, c)
  let (taken, text, breaks, c) :=
    if (c.column : Int) = indent ∧ (c.peek 0).isSome then blockLines folds indent fuel [] breaks c
    else ([], [], breaks, c)
  match chomping with
  | .strip => .ok (taken, c)
  | .clip => .ok (taken ++ text, c)
  | .keep => .ok (taken ++ text ++ breaks, c)

end Retrace.Yaml

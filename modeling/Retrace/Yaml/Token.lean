import Retrace.Yaml.Scalar

/-!
# Tokens of YAML texts

This is the scanner of `yaml.safe_load`. The indentation of a block becomes tokens of its own: one
where a block begins and one where it ends. A key that is written without a mark is known by the
colon behind it only, so the place of every token that may turn out to be such a key is kept until
it is clear.

* `Token`, `tokensOf`: the tokens of a text.
-/

namespace Retrace.Yaml

/-- What the head of a document says about how to read it. -/
inductive Directive
  | version (major : Nat)
  | tagHandle (handle leading : Text)
  | other
  deriving DecidableEq

/-- A token. -/
inductive Token
  | directive (d : Directive)
  | documentStart
  | documentEnd
  | sequenceStart
  | mappingStart
  | blockEnd
  | flowSequenceStart
  | flowSequenceEnd
  | flowMappingStart
  | flowMappingEnd
  | entryMark
  | comma
  | key
  | value
  | alias (name : Text)
  | anchor (name : Text)
  | tag (handle : Option Text) (suffix : Text)
  | scalar (text : Text) (plain : Bool)
  /-- What cannot be read, and why. Nothing comes after it. -/
  | unreadable (fault : Fault)
  deriving DecidableEq

/-- A token that may turn out to be a key: how many tokens stand before it, whether it has to be a
key, where it is, and how many brackets it is in. -/
structure PossibleKey where
  before : Nat
  required : Bool
  index : Nat
  line : Nat
  column : Nat
  depth : Nat

/-- How far a text was cut into tokens: the cursor, the tokens, how many brackets are open, the
columns of the open blocks from the inside, whether a key may stand here, and the possible keys. -/
structure Layout where
  cursor : Cursor
  tokens : List Token
  depth : Nat
  indents : List Nat
  keyAllowed : Bool
  keys : List PossibleKey

namespace Layout

/-- The layout at the start of a text. -/
def start (t : Text) : Layout := ⟨.ofText t, [], 0, [], true, []⟩

/-- The column of the innermost open block; without one, the column before the first. -/
def indent (l : Layout) : Int := (l.indents.head?.map Int.ofNat).getD (-1)

/-- Whether brackets are open. -/
def inFlow (l : Layout) : Bool := 0 < l.depth

/-- The layout at another cursor. -/
def moveTo (l : Layout) (cursor : Cursor) : Layout := { l with cursor }

/-- The layout with one more token. -/
def emit (l : Layout) (token : Token) : Layout := { l with tokens := l.tokens ++ [token] }

/-- The layout with a token put in after a number of tokens. -/
def emitAt (l : Layout) (place : Nat) (token : Token) : Layout :=
  { l with tokens := l.tokens.take place ++ token :: l.tokens.drop place }

/-- The layout where a key may stand, or may not. -/
def allowKey (l : Layout) (keyAllowed : Bool) : Layout := { l with keyAllowed }

/-- Blocks that are indented further than a column, closed. -/
def closeBlocks (l : Layout) (column : Int) : Layout :=
  if l.inFlow then l
  else
    let closed := l.indents.takeWhile fun (indent : Nat) => column < (indent : Int)
    { l with
      tokens := l.tokens ++ closed.map fun _ => Token.blockEnd
      indents := l.indents.drop closed.length }

/-- Whether a block at a column would be a new one. -/
def opensBlock (l : Layout) (column : Nat) : Bool := !l.inFlow && l.indent < column

/-- The layout with a new block at a column. -/
def pushBlock (l : Layout) (column : Nat) : Layout := { l with indents := column :: l.indents }

/-- A block opened at the column of the cursor, if it would be a new one. -/
def openBlock (l : Layout) (token : Token) : Layout :=
  let column := l.cursor.column
  if l.opensBlock column then (l.emit token).pushBlock column else l

/-! ### Possible keys -/

/-- The possible keys that can still be keys: a key is on one line and not too long. -/
def dropStaleKeys (l : Layout) : Except Fault Layout :=
  let fresh (key : PossibleKey) : Bool :=
    key.line == l.cursor.line && l.cursor.index ≤ key.index + 1024
  if l.keys.any fun key => key.required && !fresh key then .error .keyUnfinished
  else .ok { l with keys := l.keys.filter fresh }

/-- The possible key inside the brackets that are open. -/
def key? (l : Layout) : Option PossibleKey := l.keys.find? (·.depth == l.depth)

/-- The layout without the possible key inside the brackets that are open. -/
def forgetKey (l : Layout) : Layout := { l with keys := l.keys.filter (·.depth != l.depth) }

/-- The same, where a key that is required may not be forgotten. -/
def dropKey (l : Layout) : Except Fault Layout :=
  if l.key?.any (·.required) then .error .keyUnfinished else .ok l.forgetKey

/-- The token that comes next kept as a possible key. -/
def keepKey (l : Layout) : Except Fault Layout :=
  if l.keyAllowed then do
    let l ← l.dropKey
    let c := l.cursor
    let required := !l.inFlow && l.indent == (c.column : Int)
    .ok { l with keys := ⟨l.tokens.length, required, c.index, c.line, c.column, l.depth⟩ :: l.keys }
  else .ok l

/-! ### Spaces, comments and line ends -/

/-- The layout at the next token. After a line end outside of brackets a key may stand. -/
def skipToToken : Nat → Layout → Layout
  | 0, l => l
  | fuel + 1, l =>
    let c := (l.cursor.skip (· == ' ')).skipComment
    if (c.peek 0).any isBreak then
      skipToToken fuel ((l.moveTo c.lineBreak.2).allowKey (!l.inFlow || l.keyAllowed))
    else l.moveTo c

/-- The layout after the byte order mark that a text may start with. -/
def skipMark (l : Layout) : Layout :=
  if l.cursor.index = 0 ∧ l.cursor.sees '\uFEFF' then l.moveTo l.cursor.step else l

/-! ### Directives and documents -/

/-- Whether a character may stand in the name of an anchor, a tag handle or a directive. -/
def isNameLetter (c : Char) : Bool := c.isAlphanum || c == '-' || c == '_'

/-- Whether a character may stand in the URI of a tag. -/
def isUriLetter (c : Char) : Bool := c.isAlphanum || "-;/?:@&=+$,_.!~*'()[]%".toList.contains c

/-- The text of the URI of a tag at a cursor, and the cursor after it. -/
def tagUri (c : Cursor) : Except Fault (Text × Cursor) :=
  let uri := c.run isUriLetter
  if uri.isEmpty then .error .tag
  else
    match Utf8.decode (Percent.bytes uri) with
    | .ok text => .ok (text, c.skip isUriLetter)
    | .error _ => .error .tag

/-- The handle of a tag at a cursor, and the cursor after it: an exclamation mark, or two around a
name. -/
def tagHandle (c : Cursor) : Except Fault (Text × Cursor) :=
  if c.sees '!' then
    let name := c.step.run isNameLetter
    let after := c.step.skip isNameLetter
    if after.sees '!' then .ok ('!' :: name ++ ['!'], after.step)
    else if name.isEmpty ∧ after.sees ' ' then .ok (['!'], after)
    else .error .tag
  else .error .tag

/-- The digits at a cursor as a number, and the cursor after them. -/
def directiveNumber (c : Cursor) : Except Fault (Nat × Cursor) :=
  let digits := c.run (·.isDigit)
  if digits.isEmpty then .error .directive
  else .ok (digits.foldl (fun n d => 10 * n + (d.toNat - 48)) 0, c.skip (·.isDigit))

/-- Whether a space or the end of a line comes next. -/
def endsPart (c : Cursor) : Bool := isGapAt (c.peek 0) && !c.sees '\t'

/-- The directive at a cursor, and the cursor after its line. -/
def readDirective (c : Cursor) : Except Fault (Directive × Cursor) := do
  let name := c.step.run isNameLetter
  let after := c.step.skip isNameLetter
  if name.isEmpty || !endsPart after then .error .directive
  else
    let (directive, after) : Directive × Cursor ←
      if name = "YAML".toList then do
        let (major, c) ← directiveNumber (after.skip (· == ' '))
        if !c.sees '.' then .error .directive
        else
          let (_, c) ← directiveNumber c.step
          if endsPart c then .ok (.version major, c) else .error .directive
      else if name = "TAG".toList then do
        let (handle, c) ← tagHandle (after.skip (· == ' '))
        if !c.sees ' ' then .error .directive
        else
          let (leading, c) ← tagUri (c.skip (· == ' '))
          if endsPart c then .ok (.tagHandle handle leading, c) else .error .directive
      else .ok (.other, after.skip (!isBreak ·))
    let c := (after.skip (· == ' ')).skipComment
    if isLineEndAt (c.peek 0) then .ok (directive, c.lineBreak.2) else .error .directive

/-- A directive read. -/
def takeDirective (l : Layout) : Except Fault Layout := do
  let l ← (l.closeBlocks (-1)).dropKey
  let (directive, c) ← readDirective l.cursor
  .ok (((l.allowKey false).emit (.directive directive)).moveTo c)

/-- The mark of the start or the end of a document read. -/
def takeDocumentMark (l : Layout) (token : Token) : Except Fault Layout := do
  let l ← (l.closeBlocks (-1)).dropKey
  .ok (((l.allowKey false).emit token).moveTo (l.cursor.advance 3))

/-! ### Collections -/

/-- An opening bracket read. -/
def takeOpening (l : Layout) (token : Token) : Except Fault Layout := do
  let l ← l.keepKey
  let l := ((l.allowKey true).emit token).moveTo l.cursor.step
  .ok { l with depth := l.depth + 1 }

/-- A closing bracket read. -/
def takeClosing (l : Layout) (token : Token) : Except Fault Layout := do
  let l ← l.dropKey
  if l.depth = 0 then .error .bracket
  else
    let l := ((l.allowKey false).emit token).moveTo l.cursor.step
    .ok { l with depth := l.depth - 1 }

/-- A comma read. -/
def takeComma (l : Layout) : Except Fault Layout := do
  let l ← (l.allowKey true).dropKey
  .ok ((l.emit .comma).moveTo l.cursor.step)

/-- The mark of an entry read. -/
def takeEntryMark (l : Layout) : Except Fault Layout := do
  if !l.inFlow && !l.keyAllowed then .error .misplaced
  else
    let l ← ((l.openBlock .sequenceStart).allowKey true).dropKey
    .ok ((l.emit .entryMark).moveTo l.cursor.step)

/-- The mark of a key read. -/
def takeKeyMark (l : Layout) : Except Fault Layout := do
  if !l.inFlow && !l.keyAllowed then .error .misplaced
  else
    let l ← ((l.openBlock .mappingStart).allowKey (!l.inFlow)).dropKey
    .ok ((l.emit .key).moveTo l.cursor.step)

/-- The mark of a value read. The possible key before it turns out to be its key. -/
def takeValueMark (l : Layout) : Except Fault Layout := do
  match l.key? with
  | some key =>
    let opens := l.opensBlock key.column
    let l := l.forgetKey.emitAt key.before .key
    let l := if opens then (l.emitAt key.before .mappingStart).pushBlock key.column else l
    .ok (((l.allowKey false).emit .value).moveTo l.cursor.step)
  | none =>
    if !l.inFlow && !l.keyAllowed then .error .misplaced
    else
      let l ← ((l.openBlock .mappingStart).allowKey (!l.inFlow)).dropKey
      .ok ((l.emit .value).moveTo l.cursor.step)

/-! ### Nodes -/

/-- The name of an anchor or an alias read. -/
def takeName (l : Layout) (token : Text → Token) : Except Fault Layout := do
  let l ← l.keepKey
  let name := l.cursor.step.run isNameLetter
  let after := l.cursor.step.skip isNameLetter
  let ends := isGapAt (after.peek 0) || (after.peek 0).any "?:,]\x7d%@\x60".toList.contains
  if name.isEmpty || !ends then .error .anchorName
  else .ok (((l.allowKey false).emit (token name)).moveTo after)

/-- The tag at a cursor, and the cursor after it. -/
def readTag (c : Cursor) : Except Fault (Token × Cursor) :=
  if c.step.sees '<' then do
    let (uri, after) ← tagUri (c.advance 2)
    if after.sees '>' then .ok (.tag none uri, after.step) else .error .tag
  else if isGapAt (c.peek 1) then .ok (.tag none ['!'], c.step)
  else do
    let word := c.step.run fun x => x != ' ' && !isBreak x
    let (handle, after) : Text × Cursor ←
      if word.contains '!' then tagHandle c else .ok (['!'], c.step)
    let (suffix, after) ← tagUri after
    .ok (.tag (some handle) suffix, after)

/-- A tag read. -/
def takeTag (l : Layout) : Except Fault Layout := do
  let l ← l.keepKey
  let (token, after) ← readTag l.cursor
  if endsPart after then .ok (((l.allowKey false).emit token).moveTo after) else .error .tag

/-- A block scalar read. -/
def takeBlockScalar (l : Layout) (folds : Bool) : Except Fault Layout := do
  let l ← (l.allowKey true).dropKey
  let (text, after) ← blockScalar folds l.indent l.cursor
  .ok ((l.emit (.scalar text false)).moveTo after)

/-- A quoted scalar read. -/
def takeQuotedScalar (l : Layout) (quote : Char) : Except Fault Layout := do
  let l ← l.keepKey
  let (text, after) ← quotedScalar quote l.cursor
  .ok (((l.allowKey false).emit (.scalar text false)).moveTo after)

/-- A plain scalar read. A key may stand behind it if a line ended there. -/
def takePlainScalar (l : Layout) : Except Fault Layout := do
  let l ← l.keepKey
  let (text, after, ended) := plainScalar l.inFlow (l.indent + 1) l.cursor
  .ok (((l.allowKey ended).emit (.scalar text true)).moveTo after)

/-- Whether a plain scalar may start with a character that a character follows. -/
def startsPlain (inFlow : Bool) (x : Char) (next : Option Char) : Bool :=
  !(isGapAt (some x) || "-?:,[]\x7b\x7d#&*!|>'\"%@\x60".toList.contains x)
    || (!isGapAt next && (x == '-' || (!inFlow && (x == '?' || x == ':'))))

/-- The next token read, which starts with a character. -/
def takeToken (l : Layout) (x : Char) : Except Fault Layout :=
  let next := l.cursor.peek 1
  let marks := l.inFlow || isGapAt next
  if x = '%' ∧ l.cursor.column = 0 then l.takeDirective
  else if l.cursor.column = 0 ∧ l.cursor.seesMark '-' then l.takeDocumentMark .documentStart
  else if l.cursor.column = 0 ∧ l.cursor.seesMark '.' then l.takeDocumentMark .documentEnd
  else if x = '[' then l.takeOpening .flowSequenceStart
  else if x = '\x7b' then l.takeOpening .flowMappingStart
  else if x = ']' then l.takeClosing .flowSequenceEnd
  else if x = '\x7d' then l.takeClosing .flowMappingEnd
  else if x = ',' then l.takeComma
  else if x = '-' ∧ isGapAt next then l.takeEntryMark
  else if x = '?' ∧ marks then l.takeKeyMark
  else if x = ':' ∧ marks then l.takeValueMark
  else if x = '*' then l.takeName .alias
  else if x = '&' then l.takeName .anchor
  else if x = '!' then l.takeTag
  else if x = '|' ∧ l.depth = 0 then l.takeBlockScalar false
  else if x = '>' ∧ l.depth = 0 then l.takeBlockScalar true
  else if x = '\'' ∨ x = '"' then l.takeQuotedScalar x
  else if startsPlain l.inFlow x next then l.takePlainScalar
  else .error (.noToken x)

/-- The blocks closed at the end of a text. -/
def finish (l : Layout) : Except Fault Layout := (l.closeBlocks (-1)).dropKey

/-- The layout at the next token, with the blocks closed that end before it. -/
def approach (l : Layout) : Except Fault Layout :=
  (skipToToken (l.cursor.rest.length + 1) l.skipMark).dropStaleKeys.map fun l =>
    l.closeBlocks l.cursor.column

/-- The tokens of the rest of a text. -/
def run : Nat → Layout → List Token
  | 0, l => l.tokens
  | fuel + 1, l =>
    match l.approach with
    | .error fault => l.tokens ++ [.unreadable fault]
    | .ok l =>
      match l.cursor.peek 0 with
      | none =>
        match l.finish with
        | .error fault => l.tokens ++ [.unreadable fault]
        | .ok l => l.tokens
      | some x =>
        match l.takeToken x with
        | .error fault => l.tokens ++ [.unreadable fault]
        | .ok l => run fuel l

end Layout

/-- The tokens of a text. A character that may not stand in a text is told before all else. -/
def tokensOf (t : Text) : Except Fault (List Token) :=
  match t.find? fun c => !isAllowed c with
  | some c => .error (.unprintable c)
  | none => .ok (Layout.run (t.length + 1) (.start t))

end Retrace.Yaml

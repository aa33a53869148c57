import Retrace.Json.Basic
import Retrace.Text.Percent

/-!
# Reading JSON

This is `json.loads`, down to the wording of its faults (`JSONDecodeError`). The reader follows the
grammar of JSON, with `NaN`, `Infinity` and `-Infinity` as numbers, and reports what it expected and
where. A key that occurs again takes the later value. A numeral without fraction and exponent is a
whole number of any size up to the limit of numerals.

Arrays and objects inside one another are read down to a depth. Apart from that the functions carry
a bound on their nesting; a value and its first element take two of it for at least one character,
so `parse` starts with more than twice the length of the text.

Main statement: `parse_bom`, a text that starts with a byte order mark is refused at once.
-/

namespace Retrace.Json

/-- What was wrong at a place in a JSON text. -/
inductive Problem
  | expectingValue
  | expectingKey
  | expectingColon
  | expectingComma
  | extraData
  | unterminatedText
  | controlCharacter
  | escape
  | unicodeEscape
  | byteOrderMark
  deriving DecidableEq

/-- The wording of a problem. -/
def Problem.message : Problem → String
  | .expectingValue => "Expecting value"
  | .expectingKey => "Expecting property name enclosed in double quotes"
  | .expectingColon => "Expecting ':' delimiter"
  | .expectingComma => "Expecting ',' delimiter"
  | .extraData => "Extra data"
  | .unterminatedText => "Unterminated string starting at"
  | .controlCharacter => "Invalid control character at"
  | .escape => "Invalid \\escape"
  | .unicodeEscape => "Invalid \\uXXXX escape"
  | .byteOrderMark => "Unexpected UTF-8 BOM (decode using utf-8-sig)"

/-- What a bracket opens. -/
inductive Bracket
  | array
  | object
  deriving DecidableEq

/-- The wording for a bracket that is too deep inside others. -/
def Bracket.message : Bracket → String
  | .array => "maximum recursion depth exceeded while decoding a JSON array from a unicode string"
  | .object => "maximum recursion depth exceeded while decoding a JSON object from a unicode string"

/-- Why a text is no JSON. -/
inductive Fault
  /-- A problem at a position. -/
  | malformed (problem : Problem) (position : Nat)
  /-- A numeral that is refused. -/
  | numeral (fault : NumeralFault)
  /-- A bracket too deep inside others. -/
  | tooDeep (bracket : Bracket)
  deriving DecidableEq

/-- What is left of a text, and the position where it starts. -/
structure Cursor where
  rest : Text
  position : Nat

namespace Cursor

/-- The cursor after `count` characters. -/
def skip (c : Cursor) (count : Nat) : Cursor := ⟨c.rest.drop count, c.position + count⟩

/-- The cursor after the spaces of JSON. -/
def skipSpace (c : Cursor) : Cursor :=
  c.skip (c.rest.takeWhile fun x => x = ' ' || x = '\t' || x = '\n' || x = '\r').length

/-- A problem at the cursor. -/
def fail {α : Type} (c : Cursor) (problem : Problem) : Except Fault α :=
  .error (.malformed problem c.position)

end Cursor

/-- The code point that four hexadecimal digits at the start of a text write. -/
def codePoint? : Text → Option Nat
  | a :: b :: c :: d :: _ =>
    match hexValue? a, hexValue? b, hexValue? c, hexValue? d with
    | some a, some b, some c, some d => some (((a * 16 + b) * 16 + c) * 16 + d)
    | _, _, _, _ => none
  | _ => none

/-- Whether a code point is the first of two surrogates. -/
def isHighSurrogate (n : Nat) : Bool := 0xD800 ≤ n && n ≤ 0xDBFF

/-- Whether a code point is the second of two surrogates. -/
def isLowSurrogate (n : Nat) : Bool := 0xDC00 ≤ n && n ≤ 0xDFFF

/-- The character of a Unicode escape whose digits start at the cursor, and the cursor after it.
Something must follow the digits. Two escapes of surrogates that belong together are one character.
A surrogate on its own is no character, so `json.loads` makes a string that is no text of it; here
U+FFFD stands for it, and what comes of such a string is told only where it makes no difference. -/
def unicodeEscape (c : Cursor) : Except Fault (Char × Cursor) :=
  if c.rest.length < 5 then .error (.malformed .unicodeEscape (c.position - 1))
  else
    match codePoint? c.rest with
    | none => .error (.malformed .unicodeEscape (c.position - 1))
    | some high =>
      let after := c.skip 4
      let second := after.skip 2
      if 0xD800 ≤ high ∧ high ≤ 0xDBFF ∧ 6 < after.rest.length
          ∧ after.rest.take 2 = ['\\', 'u'] then
        match codePoint? second.rest with
        | none => .error (.malformed .unicodeEscape (second.position - 1))
        | some low =>
          if 0xDC00 ≤ low ∧ low ≤ 0xDFFF then
            .ok (.ofNat (0x10000 + (high - 0xD800) * 0x400 + (low - 0xDC00)), second.skip 4)
          else .ok (Utf8.replacement, after)
      else .ok (Utf8.charOfCodePoint high, after)

/-- Whether a text of JSON has an escape of a surrogate on its own from here on, where `high` says
whether the escape just before is the first of two surrogates. -/
def hasLoneEscapeFrom : Bool → Text → Bool
  | high, [] => high
  | high, '\\' :: 'u' :: a :: b :: c :: d :: rest =>
    match codePoint? [a, b, c, d] with
    | some n =>
      if isLowSurrogate n then !high || hasLoneEscapeFrom false rest
      else high || hasLoneEscapeFrom (isHighSurrogate n) rest
    | none => high || hasLoneEscapeFrom false rest
  | high, '\\' :: _ :: rest => high || hasLoneEscapeFrom false rest
  | high, _ :: rest => high || hasLoneEscapeFrom false rest

/-- Whether a text of JSON has an escape of a surrogate on its own. -/
def hasLoneEscape (t : Text) : Bool := hasLoneEscapeFrom false t

/-- The character that a letter after a backslash writes. -/
def escapedChar? : Char → Option Char
  | '"' => some '"'
  | '\\' => some '\\'
  | '/' => some '/'
  | 'b' => some '\x08'
  | 'f' => some '\x0c'
  | 'n' => some '\n'
  | 'r' => some '\r'
  | 't' => some '\t'
  | _ => none

/-- The rest of a quoted text that was opened at `opening`, after the characters `taken` in
reverse. -/
def quotedText (opening : Nat) : Nat → Text → Cursor → Except Fault (Text × Cursor)
  | 0, _, _ => .error (.malformed .unterminatedText opening)
  | fuel + 1, taken, c =>
    match c.rest with
    | [] => .error (.malformed .unterminatedText opening)
    | '"' :: _ => .ok (taken.reverse, c.skip 1)
    | ['\\'] => .error (.malformed .unterminatedText opening)
    | '\\' :: 'u' :: _ =>
      match unicodeEscape (c.skip 2) with
      | .error fault => .error fault
      | .ok (x, after) => quotedText opening fuel (x :: taken) after
    | '\\' :: x :: _ =>
      match escapedChar? x with
      | none => c.fail .escape
      | some x => quotedText opening fuel (x :: taken) (c.skip 2)
    | x :: _ =>
      if x.toNat < 0x20 then c.fail .controlCharacter
      else quotedText opening fuel (x :: taken) (c.skip 1)

/-- Whether a character is a digit of a JSON number. -/
def isNumberDigit (c : Char) : Bool := 48 ≤ c.toNat && c.toNat ≤ 57

/-- The number that ASCII digits write. -/
def digitsValue (digits : Text) : Nat := digits.foldl (fun n c => 10 * n + (c.toNat - 48)) 0

/-- The digits of the fraction that a text starts with. -/
def fractionDigits : Text → Text
  | '.' :: rest => rest.takeWhile isNumberDigit
  | _ => []

/-- The exponent that a text starts with, and its length. -/
def exponent? : Text → Option (Int × Nat)
  | e :: rest =>
    if e = 'e' ∨ e = 'E' then
      let (negative, signed, after) :=
        match rest with
        | '-' :: after => (true, 1, after)
        | '+' :: after => (false, 1, after)
        | after => (false, 0, after)
      let digits := after.takeWhile isNumberDigit
      if digits.isEmpty then none
      else
        let value : Int := digitsValue digits
        some (if negative then -value else value, 1 + signed + digits.length)
    else none
  | [] => none

/-- The number at the cursor. -/
def number (c : Cursor) : Except Fault (Json × Cursor) :=
  let negative := c.rest.head? = some '-'
  let sign := if negative then 1 else 0
  let unsigned := c.rest.drop sign
  let whole :=
    if unsigned.head? = some '0' then ['0'] else unsigned.takeWhile isNumberDigit
  if whole.isEmpty then c.fail .expectingValue
  else
    let afterWhole := unsigned.drop whole.length
    let fraction := fractionDigits afterWhole
    let fractionLength := if fraction.isEmpty then 0 else fraction.length + 1
    let exponent := exponent? (afterWhole.drop fractionLength)
    let size := sign + whole.length + fractionLength + (exponent.map (·.2)).getD 0
    if fraction.isEmpty && exponent.isNone then
      match readNumeral whole with
      | .error fault => .error (.numeral fault)
      | .ok n => .ok (.int (if negative then -(n : Int) else n), c.skip size)
    else
      let power := (exponent.map (·.1)).getD 0 - fraction.length
      .ok (.float (.ofDecimal negative (digitsValue (whole ++ fraction)) power), c.skip size)

/-- The constants of JSON. -/
def constants : List (Text × Json) :=
  [("null".toList, .null), ("true".toList, .bool true), ("false".toList, .bool false),
    ("NaN".toList, .float .nan), ("Infinity".toList, .float (.infinite false)),
    ("-Infinity".toList, .float (.infinite true))]

/-- The constant at the start of a text. -/
def constant? (t : Text) : Option (Text × Json) :=
  constants.find? fun entry => Text.startsWith entry.1 t

mutual

/-- The value at the cursor, with so many brackets inside one another at most. -/
def value : Nat → Nat → Cursor → Except Fault (Json × Cursor)
  | 0, _, c => c.fail .expectingValue
  | fuel + 1, depth, c =>
    match c.rest with
    | '"' :: _ =>
      match quotedText c.position (c.rest.length + 1) [] (c.skip 1) with
      | .error fault => .error fault
      | .ok (t, after) => .ok (.str t, after)
    | '\x7b' :: _ =>
      let inner := (c.skip 1).skipSpace
      if depth = 0 then .error (.tooDeep .object)
      else if inner.rest.head? = some '\x7d' then .ok (.obj [], inner.skip 1)
      else members fuel (depth - 1) [] inner
    | '[' :: _ =>
      let inner := (c.skip 1).skipSpace
      if depth = 0 then .error (.tooDeep .array)
      else if inner.rest.head? = some ']' then .ok (.arr [], inner.skip 1)
      else elements fuel (depth - 1) [] inner
    | _ =>
      match constant? c.rest with
      | some (name, constant) => .ok (constant, c.skip name.length)
      | none => number c

/-- The rest of an array from an element on, after the elements `taken` in reverse. -/
def elements : Nat → Nat → List Json → Cursor → Except Fault (Json × Cursor)
  | 0, _, _, c => c.fail .expectingValue
  | fuel + 1, depth, taken, c =>
    match value fuel depth c with
    | .error fault => .error fault
    | .ok (item, after) =>
      let after := after.skipSpace
      match after.rest with
      | ']' :: _ => .ok (.arr (item :: taken).reverse, after.skip 1)
      | ',' :: _ => elements fuel depth (item :: taken) (after.skip 1).skipSpace
      | _ => after.fail .expectingComma

/-- The rest of an object from a key on, after the fields `taken`. -/
def members : Nat → Nat → Fields → Cursor → Except Fault (Json × Cursor)
  | 0, _, _, c => c.fail .expectingKey
  | fuel + 1, depth, taken, c =>
    if c.rest.head? = some '"' then
      match quotedText c.position (c.rest.length + 1) [] (c.skip 1) with
      | .error fault => .error fault
      | .ok (key, after) =>
        let colon := after.skipSpace
        if colon.rest.head? = some ':' then
          match value fuel depth (colon.skip 1).skipSpace with
          | .error fault => .error fault
          | .ok (item, after) =>
            let after := after.skipSpace
            match after.rest with
            | '\x7d' :: _ => .ok (.obj (taken.put key item), after.skip 1)
            | ',' :: _ => members fuel depth (taken.put key item) (after.skip 1).skipSpace
            | _ => after.fail .expectingComma
        else colon.fail .expectingColon
    else c.fail .expectingKey

end

/-- The greatest number of brackets inside one another. It belongs to the environment: what the
recursion limit of the interpreter leaves to `json.loads` where the library calls it. -/
def mostDepth : Nat := 985

/-- The value of a JSON text. -/
def parse (t : Text) : Except Fault Json :=
  if t.head? = some '\uFEFF' then .error (.malformed .byteOrderMark 0)
  else
    match value (2 * t.length + 2) mostDepth (Cursor.skipSpace ⟨t, 0⟩) with
    | .error fault => .error fault
    | .ok (v, after) =>
      let after := after.skipSpace
      if after.rest.isEmpty then .ok v else after.fail .extraData

theorem parse_bom (t : Text) :
    parse ('\uFEFF' :: t) = .error (.malformed .byteOrderMark 0) := by
  simp [parse]

/-- The wording of a fault in a text: where it is by line, by column and by character. -/
def Fault.message (t : Text) : Fault → String
  | .malformed problem position =>
    let before := t.take position
    let line := before.count '\n' + 1
    let column := (before.reverse.takeWhile (· ≠ '\n')).length + 1
    s!"{problem.message}: line {line} column {column} (char {position})"
  | .numeral fault => fault.message
  | .tooDeep bracket => bracket.message

end Retrace.Json

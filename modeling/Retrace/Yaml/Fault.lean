import Retrace.Number.Literal
import Retrace.Text.Base64

/-!
# Faults of YAML texts

Why a text is no YAML (`YAMLError`), or says something that has no value: a scalar may look like a
number or a moment in time and be none.

* `Fault`: why a text cannot be read;
* `ScalarFlaw`, `MomentFlaw`: why a scalar has no value, with their wording.
-/

namespace Retrace.Yaml

/-- Why there is no such moment in time. -/
inductive MomentFlaw
  | year (n : Nat)
  | month
  | day
  | hour
  | minute
  | second
  /-- A zone that is a day or more ahead or behind. -/
  | zone (minutes : Int)
  deriving DecidableEq

/-- Why a scalar has no value. -/
inductive ScalarFlaw
  /-- A number without characters, but for its sign and underscores. -/
  | noDigits
  /-- A text that writes no number. -/
  | number (fault : LiteralFault)
  /-- A part of a decimal to base sixty whose weight is past all doubles. -/
  | pastDoubles
  /-- A word for no truth value. -/
  | truth (word : Text)
  /-- A text that does not have the form of a moment. -/
  | notMoment
  /-- A mapping with a default value, where the text of a moment is asked for. -/
  | momentOfMapping
  | moment (flaw : MomentFlaw)
  /-- A code that is past all characters. -/
  | pastCharacters
  /-- A code that is past all signed words. -/
  | pastWords
  /-- A default value that is its own mapping. -/
  | endless
  deriving DecidableEq

/-- A number of minutes, as messages show how long they are. -/
def durationLiteral (minutes : Int) : String :=
  let days := minutes / 1440
  let seconds := minutes % 1440 * 60
  let shown (name : String) (n : Int) : List String := if n = 0 then [] else [name ++ "=" ++ n.repr]
  let parts := shown "days" days ++ shown "seconds" seconds
  "datetime.timedelta(" ++ (if parts.isEmpty then "0" else ", ".intercalate parts) ++ ")"

/-- The wording of a flaw. -/
def MomentFlaw.message : MomentFlaw → String
  | .year n => "year " ++ n.repr ++ " is out of range"
  | .month => "month must be in 1..12"
  | .day => "day is out of range for month"
  | .hour => "hour must be in 0..23"
  | .minute => "minute must be in 0..59"
  | .second => "second must be in 0..59"
  | .zone minutes =>
    "offset must be a timedelta strictly between -timedelta(hours=24) and timedelta(hours=24), not "
      ++ durationLiteral minutes ++ "."

/-- The wording of a flaw. -/
def ScalarFlaw.message : ScalarFlaw → String
  | .noDigits => "string index out of range"
  | .number fault => fault.message
  | .pastDoubles => "int too large to convert to float"
  | .truth word => String.ofList word.quoted
  | .notMoment => "'NoneType' object has no attribute 'groupdict'"
  | .momentOfMapping => "expected string or bytes-like object, got 'list'"
  | .moment flaw => flaw.message
  | .pastCharacters => "chr() arg not in range(0x110000)"
  | .pastWords => "Python int too large to convert to C int"
  | .endless => "maximum recursion depth exceeded"

/-- Why a text cannot be read. -/
inductive Fault
  /-- A character that may not stand in a text. -/
  | unprintable (c : Char)
  /-- A character that starts nothing. -/
  | noToken (c : Char)
  /-- A key without its colon. -/
  | keyUnfinished
  /-- An entry, a key or a value where none may stand. -/
  | misplaced
  | quoteUnfinished
  | escape
  | anchorName
  | tag
  | directive
  | blockHeader
  | bracket
  /-- A node was expected. -/
  | nodeMissing
  | collectionUnfinished
  | documentStartMissing
  | severalDocuments
  | unknownAlias (name : Text)
  | repeatedAnchor (name : Text)
  /-- A tag that says nothing here. -/
  | unknownTag (tag : Text)
  /-- A scalar that is not what it looks like, or what its tag says. -/
  | scalar (flaw : ScalarFlaw)
  /-- A tag for another kind of node. -/
  | wrongKind
  /-- An entry of pairs that is no mapping of one entry. -/
  | notPair
  /-- Data in base64 that is malformed. -/
  | base64 (fault : Base64.Fault)
  /-- Something that is not a mapping was to be merged into one. -/
  | mergeSource
  | unhashableKey
  deriving DecidableEq

end Retrace.Yaml

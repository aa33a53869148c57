import Retrace.Yaml.Moment

/-!
# Kinds of plain scalars

A plain scalar is a text unless it looks like something else, to the implicit resolvers of
`yaml.safe_load`: nothing, a truth value, a whole number in one of several notations, a decimal, a
moment in time, or one of two marks of mappings.

* `Kind`, `kindOf`: the kind that a plain scalar looks like.
-/

namespace Retrace.Yaml

/-- What a plain scalar looks like. -/
inductive Kind
  | null
  | bool
  | int
  | float
  | moment
  /-- The mark of a mapping that is merged into another. -/
  | merge
  /-- The mark of a default value. -/
  | value
  | str
  deriving DecidableEq

/-- The spellings of a word in lower case, with a capital, and in upper case. -/
def spellings (word capital upper : String) : List Text :=
  [word.toList, capital.toList, upper.toList]

/-- The spellings of the words for a truth value. -/
def truthSpellings : List Text :=
  spellings "yes" "Yes" "YES" ++ spellings "no" "No" "NO" ++ spellings "true" "True" "TRUE"
    ++ spellings "false" "False" "FALSE" ++ spellings "on" "On" "ON" ++ spellings "off" "Off" "OFF"

/-- The spellings of nothing. -/
def nullSpellings : List Text := [[], ['~']] ++ spellings "null" "Null" "NULL"

/-- A text without the sign that it may start with. -/
def unsigned : Text → Text
  | '-' :: rest => rest
  | '+' :: rest => rest
  | t => t

/-- Whether a character is a digit below a base up to ten, or an underscore. -/
def isDigitBelow (base : Nat) (c : Char) : Bool :=
  c == '_' || (48 ≤ c.toNat && c.toNat < 48 + base)

/-- Whether a text has characters, all of a class. -/
def isRunOf (p : Char → Bool) (t : Text) : Bool := !t.isEmpty && t.all p

/-- Whether a text is a part of a number to base sixty after the first. -/
def isSixtieth : Text → Bool
  | [c] => c.isDigit
  | [c, d] => c.isDigit && c.toNat ≤ 53 && d.isDigit
  | _ => false

/-- Whether a text is a number to base sixty, or a plain one, that starts with a digit from a
least one. -/
def isPlacedNumber (least : Nat) (t : Text) : Bool :=
  match t.pieces ':' with
  | (c :: digits) :: parts =>
    c.isDigit && least ≤ c.toNat && digits.all (isDigitBelow 10) && parts.all isSixtieth
  | _ => false

/-- Whether a text looks like a whole number. -/
def isWhole (t : Text) : Bool :=
  match unsigned t with
  | ['0'] => true
  | '0' :: 'b' :: digits => isRunOf (isDigitBelow 2) digits
  | '0' :: 'x' :: digits => isRunOf (fun c => c == '_' || (hexValue? c).isSome) digits
  | '0' :: digits => isRunOf (isDigitBelow 8) digits
  | t => isPlacedNumber 49 t

/-- Whether a text is an exponent: nothing, or a letter, a sign and digits. -/
def isExponent : Text → Bool
  | [] => true
  | e :: sign :: digits =>
    (e == 'e' || e == 'E') && (sign == '-' || sign == '+') && isRunOf (·.isDigit) digits
  | _ => false

/-- Whether a text looks like a decimal. -/
def isDecimalNumber (t : Text) : Bool :=
  let u := unsigned t
  if (spellings ".inf" ".Inf" ".INF").contains u then true
  else if (spellings ".nan" ".NaN" ".NAN").contains t then true
  else
    match u.cutAt? '.' with
    | none => false
    | some (whole, rest) =>
      let fraction := rest.takeWhile (isDigitBelow 10)
      let after := rest.dropWhile (isDigitBelow 10)
      if whole.isEmpty then
        t.head? == some '.' && (fraction.head?.any (·.isDigit)) && isExponent after
      else if whole.contains ':' then isPlacedNumber 48 whole && after.isEmpty
      else whole.head?.any (·.isDigit) && whole.all (isDigitBelow 10) && isExponent after

/-- Whether a text looks like a moment. A date alone has two digits for month and day. -/
def isMoment (t : Text) : Bool :=
  match Moment.read? t with
  | none => false
  | some m => m.time.isSome || t.length == 10

/-- The kind that a text looks like. -/
def kindOfLine (t : Text) : Kind :=
  if nullSpellings.contains t then .null
  else if truthSpellings.contains t then .bool
  else if isDecimalNumber t then .float
  else if isWhole t then .int
  else if isMoment t then .moment
  else if t = ['<', '<'] then .merge
  else if t = ['='] then .value
  else .str

/-- The kind that a scalar looks like. A line feed at its end does not count, but a line feed alone
is a text. -/
def kindOf (t : Text) : Kind := if t = ['\n'] then .str else kindOfLine (withoutLineEnd t)

end Retrace.Yaml

import Retrace.Text.Basic

/-!
# Complaints

What is wrong with a value of the settings, and where the value stands, as a `ValidationError` lists
it. Checking goes on after the first complaint, so that all that is wrong is told together.

* `ValueFlaw`, with a name for its kind and its wording;
* `Complaint`: a flaw and its place;
* `Checked`: what checking a value gives, with `Checked.both` for two values side by side.

Main statement: `both_eq_ok`, two values are good together just if each is good.
-/

namespace Retrace

/-- What is wrong with a value. -/
inductive ValueFlaw
  /-- There is no value, though there has to be one. -/
  | missing
  /-- The value is neither a whole number nor a text of one. -/
  | notWhole
  /-- The text is no whole number. -/
  | notWholeText
  /-- The number has a fraction. -/
  | fractional
  /-- The number is not finite. -/
  | notFinite
  /-- The whole number is too large to be read. -/
  | tooLarge
  /-- The value is neither a number nor a text of one. -/
  | notNumber
  /-- The text is no number. -/
  | notNumberText
  /-- The value is no truth value, and nothing that stands for one. -/
  | notTruth
  /-- The text or number stands for no truth value. -/
  | notTruthWord
  /-- The value is no text. -/
  | notText
  /-- The value is bytes that are no text. -/
  | notUnicode
  /-- The value is no path. -/
  | notPath
  /-- The value is none of the choices. -/
  | noChoice (choices : List String)
  /-- The number is not at most the bound. -/
  | above (bound : Nat)
  /-- The number is not at least the bound. -/
  | below (bound : Nat)
  /-- The number is not greater than the bound. -/
  | notAbove (bound : Nat)
  /-- The value is no section of the given name. -/
  | notSection (name : String)
  /-- The value is no table. -/
  | notTable
  /-- The link to documentation does not lead to the web. -/
  | badLink (link : Text)
  /-- A variable for a section does not hold a value. -/
  | badVariable (sectionName : String)
  deriving DecidableEq

/-- Choices in a sentence. -/
def choicesText : List String → String
  | [] => ""
  | [last] => "'" ++ last ++ "'"
  | [first, last] => "'" ++ first ++ "' or '" ++ last ++ "'"
  | first :: others => "'" ++ first ++ "', " ++ choicesText others

/-- The wording for a variable that does not hold a value. -/
def badVariableMessage (sectionName : String) : String :=
  "error parsing value for field \"" ++ sectionName ++ "\" from source \"EnvSettingsSource\""

namespace ValueFlaw

/-- The name of the kind of a flaw. -/
def kind : ValueFlaw → String
  | .missing => "missing"
  | .notWhole => "int_type"
  | .notWholeText => "int_parsing"
  | .fractional => "int_from_float"
  | .notFinite => "finite_number"
  | .tooLarge => "int_parsing_size"
  | .notNumber => "float_type"
  | .notNumberText => "float_parsing"
  | .notTruth => "bool_type"
  | .notTruthWord => "bool_parsing"
  | .notText => "string_type"
  | .notUnicode => "string_unicode"
  | .notPath => "path_type"
  | .noChoice _ => "literal_error"
  | .above _ => "less_than_equal"
  | .below _ => "greater_than_equal"
  | .notAbove _ => "greater_than"
  | .notSection _ => "model_type"
  | .notTable => "dict_type"
  | .badLink _ => "value_error"
  | .badVariable _ => "value_error"

/-- The wording of a flaw. -/
def message : ValueFlaw → String
  | .missing => "Field required"
  | .notWhole => "Input should be a valid integer"
  | .notWholeText => "Input should be a valid integer, unable to parse string as an integer"
  | .fractional => "Input should be a valid integer, got a number with a fractional part"
  | .notFinite => "Input should be a finite number"
  | .tooLarge => "Unable to parse input string as an integer, exceeded maximum size"
  | .notNumber => "Input should be a valid number"
  | .notNumberText => "Input should be a valid number, unable to parse string as a number"
  | .notTruth => "Input should be a valid boolean"
  | .notTruthWord => "Input should be a valid boolean, unable to interpret input"
  | .notText => "Input should be a valid string"
  | .notUnicode => "Input should be a valid string, unable to parse raw data as a unicode string"
  | .notPath => "Input is not a valid path for <class 'pathlib.Path'>"
  | .noChoice choices => "Input should be " ++ choicesText choices
  | .above bound => "Input should be less than or equal to " ++ bound.repr
  | .below bound => "Input should be greater than or equal to " ++ bound.repr
  | .notAbove bound => "Input should be greater than " ++ bound.repr
  | .notSection name => "Input should be a valid dictionary or instance of " ++ name
  | .notTable => "Input should be a valid dictionary"
  | .badLink link => "Value error, Docs link must be an http(s) URL: " ++ String.ofList link
  | .badVariable sectionName => "Value error, " ++ badVariableMessage sectionName

end ValueFlaw

/-- A step from a table to one of its values. -/
inductive PlaceStep
  | name (key : Text)
  | number (key : Int)
  deriving DecidableEq

/-- A flaw, and the steps to the value that has it. -/
structure Complaint where
  place : List PlaceStep
  flaw : ValueFlaw
  deriving DecidableEq

/-- What checking a value gives: what it is used as, or all that is wrong with it. -/
abbrev Checked (α : Type) := Except (List Complaint) α

namespace Checked

/-- A value that may have a flaw of its own. -/
def ofExcept {α : Type} : Except ValueFlaw α → Checked α
  | .ok a => .ok a
  | .error flaw => .error [⟨[], flaw⟩]

/-- The check of a value that stands one step further down. -/
def under {α : Type} (step : PlaceStep) : Checked α → Checked α
  | .ok a => .ok a
  | .error complaints => .error (complaints.map fun c => ⟨step :: c.place, c.flaw⟩)

/-- The checks of two values side by side. -/
def both {α β : Type} (a : Checked α) (b : Checked β) : Checked (α × β) :=
  match a, b with
  | .ok x, .ok y => .ok (x, y)
  | .error complaints, .ok _ => .error complaints
  | .ok _, .error complaints => .error complaints
  | .error complaints, .error others => .error (complaints ++ others)

/-- Two values are good together just if each is good. -/
theorem both_eq_ok {α β : Type} {a : Checked α} {b : Checked β} {x : α} {y : β} :
    both a b = .ok (x, y) ↔ a = .ok x ∧ b = .ok y := by
  cases a <;> cases b <;> simp [both]

/-- The checks of the values of a list, in order. -/
def all {α : Type} : List (Checked α) → Checked (List α)
  | [] => .ok []
  | check :: rest => (both check (all rest)).map fun (a, others) => a :: others

end Checked

end Retrace

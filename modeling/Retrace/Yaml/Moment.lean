import Retrace.Yaml.Cursor

/-!
# Moments in time

A date, or a date and a time of day with a zone or without: `construct_yaml_timestamp`, and the
checks of `datetime`. A moment is read from a text of one form first and then checked, the zone
before the rest, for the form also has dates that there are not.

* `Moment.read?`, `Moment.check`: from a text to a moment that there is;
* `Moment.literal`: the text of a moment as messages show it;
* `Moment.same`: whether two moments are one.

Main statement: `check_eq_ok`, a checked moment has a day of its month.
-/

namespace Retrace.Yaml

/-- A time of day, and how many minutes the zone is ahead, if a zone is known. -/
structure TimeOfDay where
  hour : Nat
  minute : Nat
  second : Nat
  microsecond : Nat
  zone : Option Int
  deriving DecidableEq

/-- A date, with a time of day or without. -/
structure Moment where
  year : Nat
  month : Nat
  day : Nat
  time : Option TimeOfDay
  deriving DecidableEq

namespace Moment

/-! ### Reading -/

/-- The number of at least and at most so many digits at the start of a text, and what follows. -/
def digits? (least most : Nat) (t : Text) : Option (Nat × Text) :=
  let digits := (t.takeWhile (·.isDigit)).take most
  if least ≤ digits.length then
    some (digits.foldl (fun n c => 10 * n + (c.toNat - 48)) 0, t.drop digits.length)
  else none

/-- What follows a character at the start of a text. -/
def after? (c : Char) : Text → Option Text
  | d :: rest => if d = c then some rest else none
  | [] => none

/-- The minutes that a zone is ahead, after its sign, up to the end of a text. -/
def zoneSize? (t : Text) : Option Int := do
  let (hours, rest) ← digits? 1 2 t
  if rest.isEmpty then some (60 * hours)
  else
    let (minutes, rest) ← digits? 2 2 (← after? ':' rest)
    if rest.isEmpty then some (60 * hours + minutes) else none

/-- The zone that a text is, after spaces or not. -/
def zone? (t : Text) : Option (Option Int) :=
  if t.isEmpty then some none
  else
    match t.dropWhile isSpace with
    | ['Z'] => some (some 0)
    | '+' :: rest => (zoneSize? rest).map some
    | '-' :: rest => (zoneSize? rest).map fun size => some (-size)
    | _ => none

/-- The millionths of a second that the digits of a fraction write, six of them at most. -/
def microseconds (digits : Text) : Nat :=
  let digits := digits.take 6
  digits.foldl (fun n c => 10 * n + (c.toNat - 48)) 0 * Nat.pow 10 (6 - digits.length)

/-- The time of day that a text is. -/
def time? (t : Text) : Option TimeOfDay := do
  let (hour, t) ← digits? 1 2 t
  let (minute, t) ← digits? 2 2 (← after? ':' t)
  let (second, t) ← digits? 2 2 (← after? ':' t)
  let (fraction, t) :=
    match t with
    | '.' :: rest => (rest.takeWhile (·.isDigit), rest.dropWhile (·.isDigit))
    | t => ([], t)
  let zone ← zone? t
  some ⟨hour, minute, second, microseconds fraction, zone⟩

/-- The moment that a text looks like. -/
def read? (t : Text) : Option Moment := do
  let (year, t) ← digits? 4 4 (withoutLineEnd t)
  let (month, t) ← digits? 1 2 (← after? '-' t)
  let (day, t) ← digits? 1 2 (← after? '-' t)
  match t with
  | [] => some ⟨year, month, day, none⟩
  | c :: rest =>
    let rest ←
      if c = 'T' ∨ c = 't' then some rest
      else if isSpace c then some (rest.dropWhile isSpace)
      else none
    let time ← time? rest
    some ⟨year, month, day, some time⟩

/-! ### Checking -/

/-- The number of days in a month of a year. -/
def daysIn (year month : Nat) : Nat :=
  if month = 2 then if year % 4 = 0 ∧ (year % 100 ≠ 0 ∨ year % 400 = 0) then 29 else 28
  else if [4, 6, 9, 11].contains month then 30
  else 31

/-- Whether there is such a day. -/
def checkDay (year month day : Nat) : Except MomentFlaw Unit :=
  if year = 0 then .error (.year year)
  else if month < 1 ∨ 12 < month then .error .month
  else if day < 1 ∨ daysIn year month < day then .error .day
  else .ok ()

/-- Whether there is such a time of day, if one is given. -/
def checkTime : Option TimeOfDay → Except MomentFlaw Unit
  | none => .ok ()
  | some time =>
    if 23 < time.hour then .error .hour
    else if 59 < time.minute then .error .minute
    else if 59 < time.second then .error .second
    else .ok ()

/-- Whether there is such a zone, if one is given: it is less than a day ahead or behind. -/
def checkZone : Option Int → Except MomentFlaw Unit
  | none => .ok ()
  | some minutes => if minutes.natAbs < 24 * 60 then .ok () else .error (.zone minutes)

/-- A moment, if there is such a one. -/
def check (m : Moment) : Except MomentFlaw Moment :=
  match checkZone (m.time.bind (·.zone)), checkDay m.year m.month m.day, checkTime m.time with
  | .error flaw, _, _ => .error flaw
  | .ok _, .error flaw, _ => .error flaw
  | .ok _, .ok _, .error flaw => .error flaw
  | .ok _, .ok _, .ok _ => .ok m

theorem checkDay_eq_ok {year month day : Nat} (h : checkDay year month day = .ok ()) :
    1 ≤ day ∧ day ≤ daysIn year month := by
  unfold checkDay at h
  split at h
  · cases h
  · split at h
    · cases h
    · split at h
      · cases h
      · omega

/-- A checked moment has a day of its month. -/
theorem check_eq_ok {m n : Moment} (h : m.check = .ok n) :
    n = m ∧ 1 ≤ m.day ∧ m.day ≤ daysIn m.year m.month := by
  unfold check at h
  split at h
  · cases h
  · cases h
  · cases h
  · rename_i hday _
    cases h
    exact ⟨rfl, checkDay_eq_ok hday⟩

/-! ### Showing and comparing -/

/-- Numbers between commas. -/
def commaSeparated (numbers : List Nat) : String := ", ".intercalate (numbers.map Nat.repr)

/-- The text of a zone as messages show it. -/
def zoneLiteral (minutes : Int) : String :=
  if minutes = 0 then "datetime.timezone.utc"
  else "datetime.timezone(" ++ durationLiteral minutes ++ ")"

/-- The text of a moment as messages show it. -/
def literal (m : Moment) : String :=
  match m.time with
  | none => "datetime.date(" ++ commaSeparated [m.year, m.month, m.day] ++ ")"
  | some time =>
    let small :=
      if time.microsecond ≠ 0 then [time.second, time.microsecond]
      else if time.second ≠ 0 then [time.second]
      else []
    let zone :=
      match time.zone with
      | none => ""
      | some minutes => ", tzinfo=" ++ zoneLiteral minutes
    "datetime.datetime("
      ++ commaSeparated ([m.year, m.month, m.day, time.hour, time.minute] ++ small) ++ zone ++ ")"

/-- The number of days before a date. -/
def daysBefore (year month day : Nat) : Nat :=
  365 * year + year / 4 - year / 100 + year / 400
    + (List.range (month - 1)).foldl (fun n i => n + daysIn (year + 1) (i + 1)) 0 + day

/-- The microseconds before a time of a day, counted where the zone is none ahead. -/
def instant (m : Moment) (time : TimeOfDay) : Int :=
  let minutes : Int :=
    (daysBefore (m.year - 1) m.month m.day * 24 + time.hour) * 60 + time.minute - time.zone.getD 0
  (minutes * 60 + time.second) * 1000000 + time.microsecond

/-- Whether two moments are one. Times of day with zones are one if they come at once. -/
def same (m n : Moment) : Bool :=
  match m.time, n.time with
  | some s, some t => s.zone.isSome == t.zone.isSome && m.instant s == n.instant t
  | _, _ => m == n

end Moment

end Retrace.Yaml

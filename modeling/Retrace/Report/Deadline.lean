import Retrace.Journal.Basic

/-!
# Deadlines

Work that has to come to its end within some seconds (`with_timeout`). A limit that is not above
zero is over before the work begins.

* `Seconds`: a number of seconds, whole or not;
* `Deadline.enforce`: the outcome of work under a limit.

Main statement: `enforce_of_isOver`.
-/

namespace Retrace

/-- A number of seconds. -/
inductive Seconds
  | whole (count : Int)
  | fraction (value : Binary64)
  deriving DecidableEq

namespace Seconds

/-- A number of seconds as a value. -/
def toJson : Seconds → Json
  | whole count => .int count
  | fraction value => .float value

/-- Whether a limit is over before anything begins. -/
def isOver : Seconds → Bool
  | whole count => count ≤ 0
  | fraction value => value.atMost 0

end Seconds

/-- A limit on the time that work takes, and what to say when it is over. -/
structure Deadline where
  limit : Seconds
  message : Text

namespace Deadline

/-- What to say when a limit is over, unless there is something better. -/
def defaultMessage (limit : Seconds) : Text :=
  "Operation timed out after ".toList ++ limit.toJson.literal ++ ['s']

/-- A limit with a message; an empty one is as good as none. -/
def ofMessage (limit : Seconds) (message : Option Text) : Deadline :=
  match message with
  | some message => ⟨limit, if message.isEmpty then defaultMessage limit else message⟩
  | none => ⟨limit, defaultMessage limit⟩

/-- The outcome of work under a limit: `none` is work that does not end in time. -/
def enforce {ε α : Type} (deadline : Deadline) (outcome : Option (Except ε α)) :
    Except (Option ε) α × List Event :=
  let late := (.error none, [.timedOut deadline.limit.toJson])
  if deadline.limit.isOver then late
  else
    match outcome with
    | none => late
    | some (.ok value) => (.ok value, [])
    | some (.error failure) => (.error (some failure), [])

/-- The same under a limit that there need not be. -/
def enforceIfAny {ε α : Type} (deadline : Option Deadline) (outcome : Option (Except ε α)) :
    Except (Option ε) α × List Event :=
  match deadline with
  | some deadline => deadline.enforce outcome
  | none =>
    match outcome with
    | none => (.error none, [])
    | some outcome => (outcome.mapError some, [])

/-- Under a limit that is over, no work comes to its end. -/
theorem enforce_of_isOver {ε α : Type} {deadline : Deadline} (h : deadline.limit.isOver = true)
    (outcome : Option (Except ε α)) :
    deadline.enforce outcome = (.error none, [.timedOut deadline.limit.toJson]) := by
  simp [enforce, h]

end Deadline

end Retrace

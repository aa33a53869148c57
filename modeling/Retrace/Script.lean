import Retrace.Journal.Event

/-!
# Scripts

What a piece of work (a coroutine) does besides computing: it notes events, lets others have a turn,
and asks for files. A script says so step by step and leaves open how the files are had, so that one
script can be run alone or in turns with others.

* `Script.andThen`: one script after another, which learns how the first one ended;
* the monad of scripts, in which a failure ends the work.

Main statement: `andThen_assoc`.
-/

namespace Retrace

/-- What comes of asking for a file: its bytes, nothing if there is no such file, or a fault. -/
abbrev Fetched := Except FileFault (Option Bytes)

/-- A piece of work with a result of type `α` or a failure of type `ε`. -/
inductive Script (ε α : Type)
  | done (result : Except ε α)
  | note (event : Event) (next : Script ε α)
  | pause (next : Script ε α)
  | fetch (path : Path) (next : Fetched → Script ε α)

namespace Script

variable {ε ζ η α β γ : Type}

/-- A script and, after it, another that learns how the first one ended. -/
def andThen : Script ε α → (Except ε α → Script ζ β) → Script ζ β
  | done result, next => next result
  | note event rest, next => note event (rest.andThen next)
  | pause rest, next => pause (rest.andThen next)
  | fetch path rest, next => fetch path fun fetched => (rest fetched).andThen next

theorem andThen_assoc (script : Script ε α) (second : Except ε α → Script ζ β)
    (third : Except ζ β → Script η γ) :
    (script.andThen second).andThen third =
      script.andThen fun result => (second result).andThen third := by
  induction script with
  | done result => rfl
  | note event rest ih => simp only [andThen, ih]
  | pause rest ih => simp only [andThen, ih]
  | fetch path rest ih => simp only [andThen, ih]

/-- A script that goes on with the value of another and ends where the other fails. -/
def bind (script : Script ε α) (next : α → Script ε β) : Script ε β :=
  script.andThen fun
    | .ok value => next value
    | .error failure => done (.error failure)

instance : Monad (Script ε) where
  pure value := done (.ok value)
  bind := bind

/-- The script that only ends. -/
def ofExcept (result : Except ε α) : Script ε α := done result

/-- The script that notes an event. -/
def noting (event : Event) : Script ε Unit := note event (done (.ok ()))

/-- The script that notes events in order. -/
def notingAll : List Event → Script ε Unit
  | [] => done (.ok ())
  | event :: rest => note event (notingAll rest)

/-- The script that asks for a file. -/
def fetching (path : Path) : Script Failure (Option Bytes) :=
  fetch path fun fetched => done (fetched.mapError .ofFile)

/-- The script that lets others have a number of turns before it ends. -/
def pausing (result : Except ε α) : Nat → Script ε α
  | 0 => done result
  | turns + 1 => pause (pausing result turns)

end Script

end Retrace

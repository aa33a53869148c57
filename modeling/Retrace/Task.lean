import Retrace.Cache

/-!
# Tasks

A script that is run in turns, as an event loop runs a task. A turn goes on to the next point where
the task has to wait: for its next turn, for a path that another task is reading, or for its own
read. What a task wants is looked up again when a path is given free, so that no file is read twice.
A read has the row of bound fields that its task had when it began, and goes on in its thread when
the task is cancelled.

* `Script.advance`: a script up to where it waits;
* `Task.turn`: one turn of a task;
* `Task.land`, `Task.drop`: the read of a task brought to its end, and a task given up.
-/

namespace Retrace

/-- A script that has begun, and what it waits for. -/
inductive Task (ε α : Type)
  | ready (script : Script ε α)
  /-- Another task reads the path. -/
  | queued (path : Path) (next : Fetched → Script ε α)
  /-- A thread with a row of its own reads the path for the task. -/
  | reading (path : Path) (context : Json.Fields) (next : Fetched → Script ε α)
  | ended (result : Except ε α)

variable {ε α : Type}

/-- A script up to where it waits. -/
def Script.advance (s : Shared) : Script ε α → Shared × Task ε α
  | .done result => (s, .ended result)
  | .note event next => next.advance (s.note event)
  | .pause next => (s, .ready next)
  | .fetch path next =>
    let path := path.absolute
    match s.cache.find? path with
    | some bytes => (next (.ok (some bytes))).advance (s.note (.cacheHit path))
    | none =>
      if path ∈ s.taken then (s, .queued path next)
      else (s.startRead path, .reading path s.journal.context next)

namespace Task

/-- One turn of a task. -/
def turn (disk : Disk) (s : Shared) : Task ε α → Shared × Task ε α
  | ready script => script.advance s
  | queued path next =>
    if path ∈ s.taken then (s, queued path next)
    else
      match s.cache.find? path with
      | some bytes => (next (.ok (some bytes))).advance (s.note (.cacheHit path))
      | none => (s.startRead path, reading path s.journal.context next)
  | reading path context next =>
    let read := s.finishRead disk path context
    (next read.2).advance read.1
  | ended result => (s, ended result)

/-- The read of a task brought to its end; the task goes on at its next turn. -/
def land (disk : Disk) (s : Shared) : Task ε α → Shared × Task ε α
  | reading path context next =>
    let read := s.finishRead disk path context
    (read.1, ready (next read.2))
  | other => (s, other)

/-- What is shared after a task is given up. A read under way is not stopped by that. -/
def drop (s : Shared) : Task ε α → Shared
  | reading path context _ => s.strandRead path context
  | _ => s

/-- What a task that reads nothing has left to do. -/
def script : Task ε α → Script ε α
  | ready script => script
  | queued path next => .fetch path next
  | reading path _ next => .fetch path next
  | ended result => .done result

end Task

end Retrace

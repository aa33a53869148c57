import Retrace.Pool.Basic

/-!
# Courses

The course that the jobs of a `gather_bounded` take on their event loop: whose turn it is, turn
after turn, and whether the pool is brought to its end after that or its time is up.

* `Course`, `Pool.run`: a pool under a course.
-/

namespace Retrace

/-- The course of a pool. -/
inductive Course
  /-- Time is up before anything begins. -/
  | untouched
  /-- Time is up after turns in order. -/
  | cut (turns : List Nat)
  /-- Turns in order, and then all the rest. -/
  | full (turns : List Nat)

variable {ε α : Type}

/-- A pool under a course, and its outcome unless its time was up before. -/
def Pool.run (disk : Disk) (s : Shared) (pool : Pool ε α) :
    Course → Shared × Option (Except ε (List α))
  | .untouched => (s, none)
  | .cut turns =>
    let after := pool.turns disk s turns
    if after.2.failure.isSome || after.2.isOver then (after.1, some after.2.outcome)
    else (after.2.jobs.foldl Job.release after.1, none)
  | .full turns =>
    let after := pool.turns disk s turns
    let ended := after.2.settle disk after.1
    (ended.1, some ended.2.outcome)

end Retrace

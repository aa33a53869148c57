import Retrace.Task

/-!
# Pools

Scripts run together, at most a limit of them at a time, with the values in the order of the
scripts. A course of turns says whose turn it is; a turn of a script that may not yet run changes
nothing. The first failure ends the pool: whatever runs or waits is given up. This is
`gather_bounded`; every job is a task (`asyncio.ensure_future`) with a copy of the row of bound
fields that the pool was begun in. A script neither binds nor releases a field, so the row of a job
stays as it was copied.

* `Pool.start`, `Pool.turn`, `Pool.turns`: a pool before any turn, after one, and after a course;
* `Pool.settle`: a pool brought to its end, first what runs and then what waits, in order;
* `Pool.outcome`: the values, or the failure that ended the pool.

Main statement: `runningCount_start`, nothing runs before the first turn.
-/

namespace Retrace

/-- A script in a pool, with the row of bound fields that it has for itself. -/
inductive Job (ε α : Type)
  | waiting (context : Json.Fields) (script : Script ε α)
  | running (context : Json.Fields) (task : Task ε α)
  | finished (value : α)
  /-- The script was given up. -/
  | dropped

variable {ε α : Type}

namespace Job

/-- Whether a job is running. -/
def isRunning : Job ε α → Bool
  | running .. => true
  | _ => false

/-- What a running job has left to do, with its row. -/
def begun? : Job ε α → Option (Json.Fields × Script ε α)
  | running context task => some (context, task.script)
  | _ => none

/-- What a waiting job has to do, with its row. -/
def fresh? : Job ε α → Option (Json.Fields × Script ε α)
  | waiting context script => some (context, script)
  | _ => none

/-- The value of a finished job. -/
def value? : Job ε α → Option α
  | finished value => some value
  | _ => none

/-- A job that is given up unless it is finished. -/
def cut : Job ε α → Job ε α
  | finished value => finished value
  | _ => dropped

/-- What is shared after a job is given up. -/
def release (s : Shared) : Job ε α → Shared
  | running _ task => task.drop s
  | _ => s

end Job

/-- Scripts run together: the limit of how many run, the jobs in the order of the scripts, the
failure that ended the pool, and the greatest number of jobs that ran at a time. -/
structure Pool (ε α : Type) where
  limit : Nat
  jobs : List (Job ε α)
  failure : Option ε
  peak : Nat

/-- A limit under which nothing could run. -/
structure LimitFault where
  limit : Int

/-- The wording of a refused limit. -/
def LimitFault.message (fault : LimitFault) : String :=
  "limit must be at least 1, got " ++ String.ofList (intText fault.limit)

namespace Pool

/-- The pool of scripts before any turn, begun in a row of bound fields. -/
def start (limit : Nat) (context : Json.Fields) (scripts : List (Script ε α)) : Pool ε α :=
  ⟨limit, scripts.map (.waiting context), none, 0⟩

/-- The pool of scripts before any turn, for a limit under which one can run. -/
def start? (limit : Int) (context : Json.Fields) (scripts : List (Script ε α)) :
    Except LimitFault (Pool ε α) :=
  if limit < 1 then .error ⟨limit⟩ else .ok (start limit.toNat context scripts)

/-- How many jobs are running. -/
def runningCount (pool : Pool ε α) : Nat := pool.jobs.countP (·.isRunning)

/-- A pool that a failure has ended. -/
def fail (pool : Pool ε α) (s : Shared) (failure : ε) : Shared × Pool ε α :=
  (pool.jobs.foldl Job.release s,
    ⟨pool.limit, pool.jobs.map Job.cut, some failure, pool.peak⟩)

/-- A pool with a job in a new state. -/
def setJob (pool : Pool ε α) (i : Nat) (job : Job ε α) : Pool ε α :=
  let jobs := pool.jobs.set i job
  ⟨pool.limit, jobs, pool.failure, max pool.peak (jobs.countP (·.isRunning))⟩

/-- A pool after a turn that brought a job with a row to a task. -/
def place (pool : Pool ε α) (i : Nat) (context : Json.Fields) :
    Shared × Task ε α → Shared × Pool ε α
  | (s, .ended (.ok value)) => (s, pool.setJob i (.finished value))
  | (s, .ended (.error failure)) => (pool.setJob i .dropped).fail s failure
  | (s, task) => (s, pool.setJob i (.running context task))

/-- A pool after a job's turn. A job begins its first turn by running, if the limit allows. -/
def turn (disk : Disk) (s : Shared) (pool : Pool ε α) (i : Nat) : Shared × Pool ε α :=
  if pool.failure.isSome then (s, pool)
  else
    match pool.jobs[i]? with
    | some (.running context task) =>
      pool.place i context (s.within context fun s => task.turn disk s)
    | some (.waiting context script) =>
      if pool.runningCount < pool.limit then
        (pool.setJob i (.running context (.ready script))).place i context
          (s.within context fun s => script.advance s)
      else (s, pool)
    | _ => (s, pool)

/-- A pool after turns in order. -/
def turns (disk : Disk) (s : Shared) (pool : Pool ε α) : List Nat → Shared × Pool ε α
  | [] => (s, pool)
  | i :: rest =>
    let next := pool.turn disk s i
    next.2.turns disk next.1 rest

/-- Jobs with their reads brought to an end. -/
def landAll (disk : Disk) (s : Shared) : List (Job ε α) → Shared × List (Job ε α)
  | [] => (s, [])
  | .running context task :: rest =>
    let landed := s.within context fun s => task.land disk s
    let others := landAll disk landed.1 rest
    (others.1, .running context landed.2 :: others.2)
  | job :: rest =>
    let others := landAll disk s rest
    (others.1, job :: others.2)

/-- Jobs of which some are brought to their end, one after another. -/
def finishEach (disk : Disk) (left? : Job ε α → Option (Json.Fields × Script ε α)) (s : Shared) :
    List (Job ε α) → Shared × Except ε (List (Job ε α))
  | [] => (s, .ok [])
  | job :: rest =>
    match left? job with
    | none =>
      let others := finishEach disk left? s rest
      (others.1, others.2.map (job :: ·))
    | some (context, script) =>
      match s.within context fun s => script.runAlone disk s with
      | (s, .error failure) => (s, .error failure)
      | (s, .ok value) =>
        let others := finishEach disk left? s rest
        (others.1, others.2.map (.finished value :: ·))

/-- A pool brought to its end: the reads under way, then what runs, then what waits. -/
def settle (disk : Disk) (s : Shared) (pool : Pool ε α) : Shared × Pool ε α :=
  if pool.failure.isSome then (s, pool)
  else
    let landed := landAll disk s pool.jobs
    let peak := max pool.peak (if pool.jobs.any fun job => job.fresh?.isSome then 1 else 0)
    let ended (jobs : List (Job ε α)) (failure : Option ε) : Pool ε α :=
      ⟨pool.limit, jobs, failure, peak⟩
    match finishEach disk Job.begun? landed.1 landed.2 with
    | (s, .error failure) => (s, ended (landed.2.map Job.cut) (some failure))
    | (s, .ok jobs) =>
      match finishEach disk Job.fresh? s jobs with
      | (s, .error failure) => (s, ended (jobs.map Job.cut) (some failure))
      | (s, .ok jobs) => (s, ended jobs none)

/-- The values of a pool in the order of its scripts, or the failure that ended it. -/
def outcome (pool : Pool ε α) : Except ε (List α) :=
  match pool.failure with
  | some failure => .error failure
  | none => .ok (pool.jobs.filterMap Job.value?)

/-- Whether nothing runs or waits any more. -/
def isOver (pool : Pool ε α) : Bool :=
  pool.jobs.all fun job => job.begun?.isNone && job.fresh?.isNone

/-- Nothing runs before the first turn. -/
theorem runningCount_start (limit : Nat) (context : Json.Fields) (scripts : List (Script ε α)) :
    (start limit context scripts).runningCount = 0 := by
  simp [runningCount, start, List.countP_map, Function.comp_def, Job.isRunning]

end Pool

end Retrace

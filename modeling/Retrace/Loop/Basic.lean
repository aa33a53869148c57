import Retrace.Pool.Basic

/-!
# Calls on an event loop

This is `gather_bounded` step by step: an event loop does one thing of its queue after another.
Calls that are gathered on it are tasks (`ensure_future`). Each stands in line for one of a limited
number of places (`Semaphore`), has turns between which it lets the loop go on, and gives its place
back when it ends. Whoever gathers them (`asyncio.gather`) is told of each end. The first failure
settles the outcome: then the calls that are left are cancelled, and the gathering ends when it was
told of the end of each of them.

* `Loop.Call`, `Loop.Worker`: what a call does, and how far it is;
* `Loop.Gathering`: how far the gathering is;
* `Loop.turn`, `Loop.hear`, `Loop.resume`: what the loop does with what is in its queue;
* `Loop.step`, `Loop.after`: the loop after one thing that happens, and after many;
* `Loop.eager`: the loop with calls that go on as soon as they can;
* `Loop.size`: a bound on how many things can still happen;
* `Loop.peak`: the greatest number of calls that ran at a time.
-/

namespace Retrace

namespace Loop

/-- A call: how many times it lets the loop go on, and how it ends then. -/
structure Call (ε α : Type) where
  yields : Nat
  result : Except ε α

/-- How far a call is. -/
inductive Phase (ε α : Type)
  /-- It had no turn yet. -/
  | fresh
  /-- It stands in line for a place. -/
  | waiting
  /-- It stands in line, and a place was given to it. -/
  | admitted
  /-- It runs: how many times it lets the loop go on after this, and whether it can go on. -/
  | running (left : Nat) (awake : Bool)
  /-- It ended, with its result or because it was cancelled. -/
  | done (result : Option (Except ε α))

/-- A call on its way. Once it is doomed its next turn cancels it. -/
structure Worker (ε α : Type) where
  call : Call ε α
  phase : Phase ε α
  doomed : Bool

/-- What stands in the queue of a loop. -/
inductive Handle
  /-- A turn of a call. -/
  | turn (i : Nat)
  /-- The news that a call ended, for whoever waits for the outcome. -/
  | told (i : Nat)
  /-- The news that a call ended, for whoever waits for the last end. -/
  | cleared (i : Nat)
  /-- Whoever gathers the calls goes on. -/
  | resume
  deriving DecidableEq

/-- What a call does, as it is logged. -/
inductive Mark (ε α : Type)
  | entered (i : Nat)
  /-- The call lets the loop go on. -/
  | paused (i : Nat)
  | ended (i : Nat) (result : Except ε α)
  /-- The call is cancelled while it runs. -/
  | cut (i : Nat)

/-- How far a gathering is. -/
inductive Gathering (ε α : Type)
  /-- It waits for the outcome, and was told of a number of ends. -/
  | listening (heard : Nat)
  /-- The outcome is settled. -/
  | settled (outcome : Except ε (List α))
  /-- It waits for the last end, and was told of a number of ends. -/
  | clearing (failure : ε) (heard : Nat)
  /-- It was told of all ends. -/
  | cleared (failure : ε)
  | ended (outcome : Except ε (List α))

end Loop

/-- An event loop on which calls are gathered: the calls, how many places are free, who stands in
line for one, what is to be done, how far the gathering is, and what the calls did. -/
structure Loop (ε α : Type) where
  workers : List (Loop.Worker ε α)
  free : Nat
  line : List Nat
  queue : List Loop.Handle
  gathering : Loop.Gathering ε α
  log : List (Loop.Mark ε α)

variable {ε α : Type}

namespace Loop

namespace Worker

/-- Whether a call stands in line and would take a place. -/
def isWaiting (w : Worker ε α) : Bool :=
  match w.phase with
  | .waiting => !w.doomed
  | _ => false

/-- Whether a call stands in line and was cancelled there. -/
def isRevoked (w : Worker ε α) : Bool :=
  match w.phase with
  | .waiting => w.doomed
  | _ => false

/-- Whether a call runs and lets the loop go on until it is woken. -/
def isAsleep (w : Worker ε α) : Bool :=
  match w.phase with
  | .running _ awake => !awake
  | _ => false

/-- Whether a call goes on only if something else lets it. -/
def isAtRest (w : Worker ε α) : Bool := w.isWaiting || w.isAsleep

/-- Whether a call ended. -/
def isOver (w : Worker ε α) : Bool :=
  match w.phase with
  | .done _ => true
  | _ => false

/-- The result of a call that ended and was not cancelled. -/
def result? (w : Worker ε α) : Option (Except ε α) :=
  match w.phase with
  | .done result => result
  | _ => none

/-- A call that is cancelled unless it ended; if it was asleep it is woken for that. -/
def doom (w : Worker ε α) : Worker ε α :=
  match w.phase with
  | .done _ => w
  | .running left _ => ⟨w.call, .running left true, true⟩
  | phase => ⟨w.call, phase, true⟩

end Worker

/-- A loop with a call in a new phase. -/
def setPhase (l : Loop ε α) (i : Nat) (phase : Phase ε α) : Loop ε α :=
  { l with workers := l.workers.modify i fun w => ⟨w.call, phase, w.doomed⟩ }

/-- A loop with more to do. -/
def push (l : Loop ε α) (handles : List Handle) : Loop ε α :=
  { l with queue := l.queue ++ handles }

/-- A loop whose log goes on. -/
def note (l : Loop ε α) (mark : Mark ε α) : Loop ε α := { l with log := l.log ++ [mark] }

/-! ### Places -/

/-- A loop with a number of free places. -/
def setFree (l : Loop ε α) (free : Nat) : Loop ε α := { l with free := free }

/-- A loop with a new line. -/
def setLine (l : Loop ε α) (line : List Nat) : Loop ε α := { l with line := line }

/-- Whether a call stands in line and would take a place. -/
def isWaiting (l : Loop ε α) (i : Nat) : Bool := l.workers[i]?.any Worker.isWaiting

/-- Whether a call that comes now has to stand in line: no place is free, or another call stands
there that was not cancelled. -/
def isLocked (l : Loop ε α) : Bool :=
  l.free = 0 || l.line.any fun i => l.workers[i]?.any fun w => !w.isRevoked

/-- A loop after a free place is given to the first call in line that would take it. -/
def admitNext (l : Loop ε α) : Loop ε α :=
  match l.line.find? l.isWaiting with
  | none => l
  | some i => ((l.setFree (l.free - 1)).setPhase i .admitted).push [.turn i]

/-- A loop after a place is given back. -/
def release (l : Loop ε α) : Loop ε α := (l.setFree (l.free + 1)).admitNext

/-! ### Turns -/

/-- What is to be done after a call ended. -/
def Gathering.news (gathering : Gathering ε α) (i : Nat) : List Handle :=
  match gathering with
  | .clearing _ _ => [.told i, .cleared i]
  | _ => [.told i]

/-- A loop after a call without a place was cancelled. -/
def retire (l : Loop ε α) (i : Nat) : Loop ε α :=
  (l.setPhase i (.done none)).push (l.gathering.news i)

/-- A loop after a call with a place ended. -/
def vacate (l : Loop ε α) (i : Nat) (result : Option (Except ε α)) : Loop ε α :=
  (l.setPhase i (.done result)).release.push (l.gathering.news i)

/-- A loop after a call with a place began to run. -/
def enter (l : Loop ε α) (i : Nat) (call : Call ε α) : Loop ε α :=
  (l.setPhase i (.running call.yields true)).note (.entered i)

/-- A loop after a call that runs let the loop go on or ended. -/
def proceed (l : Loop ε α) (i : Nat) (call : Call ε α) : Nat → Loop ε α
  | 0 => (l.note (.ended i call.result)).vacate i (some call.result)
  | left + 1 => (l.setPhase i (.running left false)).note (.paused i)

/-- A loop after a turn of a call. -/
def turn (l : Loop ε α) (i : Nat) : Loop ε α :=
  match l.workers[i]? with
  | none => l
  | some ⟨call, .fresh, false⟩ =>
    if l.isLocked then (l.setPhase i .waiting).setLine (l.line ++ [i])
    else ((l.setFree (l.free - 1)).enter i call).proceed i call call.yields
  | some ⟨call, .admitted, false⟩ =>
    -- if more places are free than were given away, the next in line comes in too
    let seated := (l.setLine (l.line.erase i)).enter i call
    (if 0 < seated.free then seated.admitNext else seated).proceed i call call.yields
  | some ⟨call, .running left true, false⟩ => l.proceed i call left
  | some ⟨_, .fresh, true⟩ => l.retire i
  | some ⟨_, .waiting, true⟩ => (l.setLine (l.line.erase i)).retire i
  | some ⟨_, .admitted, true⟩ => (l.setLine (l.line.erase i)).vacate i none
  | some ⟨_, .running _ true, true⟩ => (l.note (.cut i)).vacate i none
  | some _ => l

/-! ### Gathering -/

/-- A loop with the gathering somewhere else. -/
def setGathering (l : Loop ε α) (gathering : Gathering ε α) : Loop ε α :=
  { l with gathering := gathering }

/-- The values of the calls that ended with one, in the order of the calls. -/
def values (l : Loop ε α) : List α :=
  l.workers.filterMap fun w => w.result?.bind Except.toOption

/-- A loop after whoever waits for the outcome was told that a call ended. -/
def hear (l : Loop ε α) (i : Nat) : Loop ε α :=
  match l.gathering, l.workers[i]?.bind Worker.result? with
  | .listening _, some (.error failure) =>
    (l.setGathering (.settled (.error failure))).push [.resume]
  | .listening heard, some (.ok _) =>
    if heard + 1 = l.workers.length then
      (l.setGathering (.settled (.ok l.values))).push [.resume]
    else l.setGathering (.listening (heard + 1))
  | _, _ => l

/-- A loop after whoever waits for the last end was told that a call ended. -/
def hearCleared (l : Loop ε α) : Loop ε α :=
  match l.gathering with
  | .clearing failure heard =>
    if heard + 1 = l.workers.length then (l.setGathering (.cleared failure)).push [.resume]
    else l.setGathering (.clearing failure (heard + 1))
  | _ => l

/-- A loop after a call was cancelled: it has a turn for that, unless one is due anyway. -/
def doom (l : Loop ε α) (i : Nat) : Loop ε α :=
  ({ l with workers := l.workers.modify i Worker.doom }).push
    (if l.workers[i]?.any Worker.isAtRest then [.turn i] else [])

/-- A loop after all calls that are left were cancelled, while the gathering waits for the last of
them to end. Of those that ended before it is told at once. -/
def clear (l : Loop ε α) (failure : ε) : Loop ε α :=
  let calls := List.range l.workers.length
  ((calls.foldl doom l).setGathering (.clearing failure 0)).push
    ((calls.filter fun i => l.workers[i]?.any Worker.isOver).map .cleared)

/-- A loop after whoever gathers the calls went on. -/
def resume (l : Loop ε α) : Loop ε α :=
  match l.gathering with
  | .settled (.ok values) => l.setGathering (.ended (.ok values))
  | .settled (.error failure) => l.clear failure
  | .cleared failure => l.setGathering (.ended (.error failure))
  | _ => l

/-! ### Runs -/

/-- A loop after something of its queue was done. -/
def handle (l : Loop ε α) : Handle → Loop ε α
  | .turn i => l.turn i
  | .told i => l.hear i
  | .cleared _ => l.hearCleared
  | .resume => l.resume

/-- A loop after the first of its queue was done. -/
def next (l : Loop ε α) : Loop ε α :=
  match l.queue with
  | [] => l
  | handle :: rest => ({ l with queue := rest }).handle handle

/-- A loop after a call that was asleep can go on. -/
def wake (l : Loop ε α) (i : Nat) : Loop ε α :=
  match l.workers[i]? with
  | some ⟨_, .running left false, _⟩ => (l.setPhase i (.running left true)).push [.turn i]
  | _ => l

/-- What can happen: the loop does the first of its queue, or what a call waits for comes about. -/
inductive Tick
  | next
  | wake (i : Nat)

/-- A loop after something happened. -/
def step (l : Loop ε α) : Tick → Loop ε α
  | .next => l.next
  | .wake i => l.wake i

/-- A loop after things that happened in order. -/
def after (l : Loop ε α) (ticks : List Tick) : Loop ε α := ticks.foldl step l

/-- The loop on which calls are gathered, with a number of places, before anything happened. -/
def start (limit : Nat) (calls : List (Call ε α)) : Loop ε α where
  workers := calls.map fun call => ⟨call, .fresh, false⟩
  free := limit
  line := []
  queue := (List.range calls.length).map .turn
  gathering := if calls.isEmpty then .ended (.ok []) else .listening 0
  log := []

/-- The same for a limit under which a call can run. -/
def start? (limit : Int) (calls : List (Call ε α)) : Except LimitFault (Loop ε α) :=
  if limit < 1 then .error ⟨limit⟩ else .ok (start limit.toNat calls)

/-- The outcome of a gathering that ended. -/
def outcome? (l : Loop ε α) : Option (Except ε (List α)) :=
  match l.gathering with
  | .ended outcome => some outcome
  | _ => none

/-- A loop after the first things of its queue were done, with each call woken as soon as it lets
the loop go on. -/
def eager (l : Loop ε α) : Nat → Loop ε α
  | 0 => l
  | steps + 1 => ((List.range l.workers.length).foldl wake l.next).eager steps

/-- How many things can still happen to a call that is not in the queue for them yet. -/
def Worker.toDo (w : Worker ε α) : Nat :=
  match w.phase with
  | .fresh => 2 * w.call.yields + 3
  | .waiting => 2 * w.call.yields + (if w.doomed then 2 else 3)
  | .admitted => 2 * w.call.yields + 2
  | .running left awake => 2 * left + (if awake then 2 else 4)
  | .done _ => 0

/-- How many things can still happen to a gathering of calls, apart from those of the calls. -/
def Gathering.toDo (calls : Nat) : Gathering ε α → Nat
  | .listening _ => calls + 2
  | .settled _ => calls + 1
  | .clearing _ _ => 1
  | .cleared _ => 0
  | .ended _ => 0

/-- The sum of a number of each call. -/
def total (f : Worker ε α → Nat) : List (Worker ε α) → Nat
  | [] => 0
  | w :: rest => f w + total f rest

/-- The sum of a number of each call of a loop. -/
def weigh (f : Worker ε α → Nat) (l : Loop ε α) : Nat := total f l.workers

/-- How many things can still happen to a loop, at most. -/
def size (l : Loop ε α) : Nat :=
  l.weigh Worker.toDo + l.queue.length + l.gathering.toDo l.workers.length

/-- How many calls run after a mark, of a number that ran before. -/
def Mark.running (before : Nat) : Mark ε α → Nat
  | .entered _ => before + 1
  | .paused _ => before
  | .ended _ _ => before - 1
  | .cut _ => before - 1

/-- The greatest number of calls that run at a time from here on, if a number runs now. -/
def peakFrom (running : Nat) : List (Mark ε α) → Nat
  | [] => running
  | mark :: rest => max running (peakFrom (mark.running running) rest)

/-- The greatest number of calls that ran at a time. -/
def peak (l : Loop ε α) : Nat := peakFrom 0 l.log

end Loop

end Retrace

import Retrace.Pool.Course
import Retrace.Proofs.Loop.Gather

/-!
# Event loops and courses

Whatever an event loop does with calls, a pool of scripts does under some course of turns: each time
a call lets the loop go on or ends it had a turn of the course. So what holds of a pool under every
course holds of the loop. The calls here let the loop go on a number of times and then end; they ask
for no files. Scripts that do are not covered: what a pool does with them is said for every course,
and which of the courses a loop with reads in threads can take is left open.

* `Call.script`, `Worker.job`: a call as a script, and a call on its way as a job of a pool;
* `Mirrors`: a pool stands as a loop does, or was ended by the first failure on the loop;
* `Mirrors.exists_turn`: a turn of a call is a turn of its job, or none.

Main statement: `exists_course`.
-/

namespace Retrace.Loop

open Ledger

variable {ε α : Type} {row : Json.Fields} {limit : Nat} {l l' : Loop ε α} {pool : Pool ε α}
  {i : Nat} {w : Worker ε α}

/-- What a call does, as a script. -/
def Call.script (call : Call ε α) : Script ε α := .pausing call.result call.yields

/-- A call on its way, as a job of a pool that was begun in a row of bound fields. -/
def Worker.job (row : Json.Fields) (w : Worker ε α) : Job ε α :=
  match w.phase with
  | .running left _ => .running row (.ready (.pausing w.call.result left))
  | .done (some (.ok value)) => .finished value
  | .done _ => .dropped
  | _ => .waiting row w.call.script

/-- A pool stands as a loop does until a call fails; it ends with that failure. -/
structure Mirrors (row : Json.Fields) (limit : Nat) (l : Loop ε α) (pool : Pool ε α) : Prop where
  limit : pool.limit = limit
  failure : pool.failure = (firstFailure? l.endings).map Prod.snd
  jobs : firstFailure? l.endings = none → pool.jobs = l.workers.map (Worker.job row)

/-- What changes neither how the calls stand nor the ends leaves the mirror image alone. -/
theorem Mirrors.of_eq (h : Mirrors row limit l pool) (hendings : l'.endings = l.endings)
    (hjobs : l'.workers.map (Worker.job row) = l.workers.map (Worker.job row)) :
    Mirrors row limit l' pool :=
  ⟨h.limit, hendings ▸ h.failure, fun hnone => hjobs ▸ h.jobs (hendings ▸ hnone)⟩

theorem map_job_setPhase (hw : l.workers[i]? = some w) (phase : Phase ε α) :
    (l.setPhase i phase).workers.map (Worker.job row) =
      (l.workers.map (Worker.job row)).set i (Worker.job row ⟨w.call, phase, w.doomed⟩) := by
  rw [workers_setPhase hw, List.map_set]

theorem map_job_setPhase_of_eq (hw : l.workers[i]? = some w) (phase : Phase ε α)
    (hjob : Worker.job row ⟨w.call, phase, w.doomed⟩ = w.job row) :
    (l.setPhase i phase).workers.map (Worker.job row) = l.workers.map (Worker.job row) := by
  have hget : (l.workers.map (Worker.job row))[i]? = some (w.job row) := by
    rw [List.getElem?_map, hw, Option.map_some]
  obtain ⟨hi, hget⟩ := List.getElem?_eq_some_iff.1 hget
  rw [map_job_setPhase hw, hjob, ← hget, List.set_getElem_self]

theorem map_job_admitNext (l : Loop ε α) :
    l.admitNext.workers.map (Worker.job row) = l.workers.map (Worker.job row) := by
  rw [admitNext]
  split
  · rfl
  · next i hfind =>
    obtain ⟨call, hw⟩ := isWaiting_eq_true.1 (List.find?_some hfind)
    have hw' : (l.setFree (l.free - 1)).workers[i]? = some ⟨call, .waiting, false⟩ := hw
    exact map_job_setPhase_of_eq hw' .admitted rfl

theorem endings_admitNext (l : Loop ε α) : l.admitNext.endings = l.endings :=
  congrArg Ledger.endings (ledger_admitNext l)

theorem Mirrors.admitNext (h : Mirrors row limit l pool) : Mirrors row limit l.admitNext pool :=
  h.of_eq (endings_admitNext l) (map_job_admitNext l)

/-! ### Turns -/

theorem firstFailure?_append (endings more : List (Nat × Except ε α))
    (hnone : firstFailure? endings = none) :
    firstFailure? (endings ++ more) = firstFailure? more := by
  rw [firstFailure?] at hnone
  rw [firstFailure?, List.findSome?_append, hnone, Option.none_or, firstFailure?]

section

variable {call : Call ε α}

theorem endings_vacate (hw : l.workers[i]? = some w) (result : Option (Except ε α)) :
    (l.vacate i result).endings = l.endings :=
  congrArg Ledger.endings (ledger_vacate hw result)

theorem map_job_vacate (hw : l.workers[i]? = some w) (result : Option (Except ε α)) :
    (l.vacate i result).workers.map (Worker.job row) =
      (l.workers.map (Worker.job row)).set i
        (Worker.job row ⟨w.call, .done result, w.doomed⟩) := by
  rw [vacate, push, release, map_job_admitNext, setFree, map_job_setPhase hw]

/-- A call goes on until it lets the loop go on or ends, and so does its job. -/
theorem Mirrors.proceed {left : Nat} (h : Mirrors row limit l pool)
    (hnone : firstFailure? l.endings = none)
    (hw : l.workers[i]? = some ⟨call, .running left true, false⟩) (s : Shared) :
    Mirrors row limit (l.proceed i call left)
      (pool.place i row (s.within row fun s => (Script.pausing call.result left).advance s)).2 := by
  have hfailure : pool.failure = none := by rw [h.failure, hnone, Option.map_none]
  cases left with
  | zero =>
    have hw' : (l.note (.ended i call.result)).workers[i]? =
      some ⟨call, .running 0 true, false⟩ := hw
    have hendings : (l.proceed i call 0).endings = l.endings ++ [(i, call.result)] := by
      rw [Loop.proceed, endings_vacate hw']
      exact congrArg Ledger.endings (ledger_note l (.ended i call.result))
    have hjobs : (l.proceed i call 0).workers.map (Worker.job row) =
        (l.workers.map (Worker.job row)).set i
          (Worker.job row ⟨call, .done (some call.result), false⟩) := by
      rw [Loop.proceed, map_job_vacate hw']
      rfl
    cases hresult : call.result with
    | error failure =>
      have hfirst : firstFailure? (l.proceed i call 0).endings = some (i, failure) := by
        rw [hendings, firstFailure?_append _ _ hnone, hresult]
        rfl
      refine ⟨h.limit, ?_, fun hnone' =>
        absurd (hfirst.symm.trans hnone') (Option.some_ne_none _)⟩
      rw [hfirst]
      rfl
    | ok value =>
      have hfirst : firstFailure? (l.proceed i call 0).endings = none := by
        rw [hendings, firstFailure?_append _ _ hnone, hresult]
        rfl
      refine ⟨h.limit, ?_, fun _ => ?_⟩
      · rw [hfirst]
        exact hfailure
      · rw [hjobs, hresult]
        exact congrArg (List.set · i _) (h.jobs hnone)
  | succ left =>
    have hendings : (l.proceed i call (left + 1)).endings = l.endings := by
      simp [Loop.proceed, endings, note, setPhase, Mark.ending?]
    refine ⟨h.limit, ?_, fun _ => ?_⟩
    · rw [hendings, hnone]
      exact hfailure
    · rw [Loop.proceed, note, map_job_setPhase hw]
      exact congrArg (List.set · i _) (h.jobs hnone)

theorem runningCount_eq (hjobs : pool.jobs = l.workers.map (Worker.job row)) :
    pool.runningCount = l.weigh Worker.runs := by
  rw [Pool.runningCount, hjobs, weigh]
  induction l.workers with
  | nil => rfl
  | cons w rest ih =>
    have hone : (if (w.job row).isRunning then 1 else 0) = w.runs := by
      rcases w with ⟨call, phase, doomed⟩
      rcases phase with _ | _ | _ | _ | (_ | _ | _) <;> rfl
    rw [List.map_cons, List.countP_cons, ih, hone, total, Nat.add_comm]

/-- A call that begins to run has a turn of its job, which waited. -/
theorem Mirrors.turn_waiting {phase : Phase ε α} {seated : Loop ε α} (h : Mirrors row limit l pool)
    (hnone : firstFailure? l.endings = none) (hw : l.workers[i]? = some ⟨call, phase, false⟩)
    (hphase : Worker.job row ⟨call, phase, false⟩ = .waiting row call.script)
    (hfree : l.weigh Worker.runs < limit) (hendings : seated.endings = l.endings)
    (hworkers : seated.workers.map (Worker.job row) =
      (l.workers.map (Worker.job row)).set i
        (Worker.job row ⟨call, .running call.yields true, false⟩))
    (hseated : seated.workers[i]? = some ⟨call, .running call.yields true, false⟩)
    (disk : Disk) (s : Shared) :
    Mirrors row limit (seated.proceed i call call.yields) (pool.turn disk s i).2 := by
  have hfailure : pool.failure = none := by rw [h.failure, hnone, Option.map_none]
  have hjob : pool.jobs[i]? = some (.waiting row call.script) := by
    rw [h.jobs hnone, List.getElem?_map, hw, Option.map_some, hphase]
  have hcount : pool.runningCount < pool.limit := by
    rw [runningCount_eq (h.jobs hnone), h.limit]
    exact hfree
  have hbegun : Mirrors row limit seated (pool.setJob i (.running row (.ready call.script))) := by
    refine ⟨h.limit, ?_, fun _ => ?_⟩
    · rw [hendings]
      exact h.failure
    · rw [hworkers, ← h.jobs hnone]
      rfl
  rw [Pool.turn, hfailure, hjob]
  simp only [Option.isSome_none, Bool.false_eq_true, ↓reduceIte, hcount]
  exact hbegun.proceed (hendings ▸ hnone) hseated s

/-- No call is cancelled before one failed. -/
theorem Kept.spared {calls : List (Call ε α)} (h : Kept calls l)
    (hnone : firstFailure? l.endings = none) {phase : Phase ε α} (hopen : phase.ending = none) :
    l.workers[i]? ≠ some ⟨call, phase, true⟩ := by
  intro hw
  have hmem : (⟨call, none, true⟩ : Standing ε α) ∈ l.ledger.calls := by
    refine List.mem_of_getElem? (i := i) ?_
    rw [Loop.getElem?_calls, hw, Option.map_some, Worker.standing, hopen]
  have hfailed : ∀ failure, ¬ l.ledger.FailedWith failure := fun failure hfirst => by
    obtain ⟨j, hfirst⟩ := hfirst
    exact Option.some_ne_none _ (hfirst.symm.trans hnone)
  cases h.staged with
  | listening _ _ _ _ _ _ _ _ hspared => exact absurd (hspared _ hmem).symm Bool.false_ne_true
  | succeeded _ _ hdone => exact Bool.false_ne_true (hdone.isOver _ hmem)
  | returned _ _ hdone => exact Bool.false_ne_true (hdone.isOver _ hmem)
  | failed failure _ hfirst => exact hfailed failure hfirst
  | clearing failure _ _ hfirst => exact hfailed failure hfirst
  | cleared failure _ hfirst => exact hfailed failure hfirst
  | raised failure _ hfirst => exact hfailed failure hfirst

theorem Ledger.Turned.endings {b b' : Ledger ε α} (hturned : b.Turned i b') :
    ∃ more, b'.endings = b.endings ++ more := by
  cases hturned with
  | same => exact ⟨[], (List.append_nil _).symm⟩
  | ended call result doomed => exact ⟨_, rfl⟩

/-- A turn of a call is a turn of its job, or no turn. -/
theorem Mirrors.exists_turn {calls : List (Call ε α)} {hand : Option Nat}
    (h : Mirrors row limit l pool) (hsound : Sound limit hand l) (hkept : Kept calls l)
    (hturn : l.Turn i l') (disk : Disk) (s : Shared) :
    ∃ turns, Mirrors row limit l' (pool.turns disk s turns).2 := by
  cases hfirst : firstFailure? l.endings with
  | some first =>
    obtain ⟨more, hendings⟩ : ∃ more, l'.endings = l.endings ++ more :=
      (turned_of_turn hturn).endings
    have hfirst' : firstFailure? l'.endings = some first := by
      rw [firstFailure?] at hfirst ⊢
      rw [hendings, List.findSome?_append, hfirst, Option.some_or]
    refine ⟨[], h.limit, ?_, fun hnone =>
      absurd (hfirst'.symm.trans hnone) (Option.some_ne_none _)⟩
    rw [hfirst', ← hfirst]
    exact h.failure
  | none =>
    have hplaces := hsound.places
    have hruns : l.weigh Worker.runs ≤ l.weigh Worker.seats := total_le_total Worker.runs_le_seats _
    cases hturn with
    | idle => exact ⟨[], h⟩
    | wait hw =>
      exact ⟨[], h.of_eq rfl (map_job_setPhase_of_eq hw .waiting rfl)⟩
    | @enter call hw hopen =>
      have hfree := (isLocked_eq_false hopen).1
      have hw' : (l.setFree (l.free - 1)).workers[i]? = some ⟨call, .fresh, false⟩ := hw
      exact ⟨[i], h.turn_waiting hfirst hw rfl (by omega)
        (congrArg Ledger.endings (ledger_enter hw' rfl call)) (map_job_setPhase hw' _)
        (getElem?_enter hw' call) disk s⟩
    | @seat call hw =>
      have hw' : (l.setLine (l.line.erase i)).workers[i]? = some ⟨call, .admitted, false⟩ := hw
      have hlt : l.weigh Worker.runs < l.weigh Worker.seats :=
        total_lt_total Worker.runs_le_seats (List.mem_of_getElem? hw) Nat.zero_lt_one
      exact ⟨[i], h.turn_waiting hfirst hw rfl (by omega)
        (congrArg Ledger.endings (ledger_enter hw' rfl call)) (map_job_setPhase hw' _)
        (getElem?_enter hw' call) disk s⟩
    | @usher call hw =>
      have hw' : (l.setLine (l.line.erase i)).workers[i]? = some ⟨call, .admitted, false⟩ := hw
      have hlt : l.weigh Worker.runs < l.weigh Worker.seats :=
        total_lt_total Worker.runs_le_seats (List.mem_of_getElem? hw) Nat.zero_lt_one
      exact ⟨[i], h.turn_waiting hfirst hw rfl (by omega)
        ((endings_admitNext _).trans (congrArg Ledger.endings (ledger_enter hw' rfl call)))
        ((map_job_admitNext _).trans (map_job_setPhase hw' _))
        (getElem?_admitNext (getElem?_enter hw' call) rfl) disk s⟩
    | @proceed call left hw =>
      have hfailure : pool.failure = none := by rw [h.failure, hfirst, Option.map_none]
      have hjob : pool.jobs[i]? = some (.running row (.ready (.pausing call.result left))) := by
        rw [h.jobs hfirst, List.getElem?_map, hw]
        rfl
      refine ⟨[i], ?_⟩
      rw [Pool.turns, Pool.turns, Pool.turn, hfailure, hjob]
      exact h.proceed hfirst hw s
    | shun hw => exact absurd hw (hkept.spared hfirst rfl)
    | revoke hw => exact absurd hw (hkept.spared hfirst rfl)
    | unseat hw => exact absurd hw (hkept.spared hfirst rfl)
    | cut hw => exact absurd hw (hkept.spared hfirst rfl)

end

/-! ### Runs -/

variable {calls : List (Call ε α)}

theorem Worker.job_doom (w : Worker ε α) : w.doom.job row = w.job row := by
  rcases w with ⟨call, phase, doomed⟩
  cases phase <;> rfl

theorem map_job_doom (l : Loop ε α) (i : Nat) :
    (l.doom i).workers.map (Worker.job row) = l.workers.map (Worker.job row) := by
  refine List.ext_getElem? fun j => ?_
  rw [List.getElem?_map, List.getElem?_map, doom, push, List.getElem?_modify]
  cases l.workers[j]? with
  | none => rfl
  | some w => by_cases hij : i = j <;> simp [hij, Worker.job_doom]

theorem Mirrors.news (h : Mirrors row limit l pool) (hnews : l.News l') :
    Mirrors row limit l' pool := by
  cases hnews with
  | clear failure =>
    have hjobs : (l.clear failure).workers.map (Worker.job row) = l.workers.map (Worker.job row) :=
      List.foldlRecOn
        (motive := fun l' => l'.workers.map (Worker.job row) = l.workers.map (Worker.job row))
        _ _ rfl fun l' hbefore i _ => (map_job_doom l' i).trans hbefore
    exact h.of_eq (congrArg Ledger.endings (ledger_clear l failure)) hjobs
  | _ => exact h.of_eq rfl rfl

/-- Whatever happens to the loop is a turn of the pool, or none. -/
theorem Mirrors.exists_step (h : Mirrors row limit l pool) (hsteady : Steady limit l)
    (hkept : Kept calls l) (tick : Tick) (disk : Disk) (s : Shared) :
    ∃ turns, Mirrors row limit (l.step tick) (pool.turns disk s turns).2 := by
  cases tick with
  | wake i =>
    refine ⟨[], ?_⟩
    rw [step, wake]
    split
    · next left _ hw => exact h.of_eq rfl (map_job_setPhase_of_eq hw (.running left true) rfl)
    · exact h
  | next =>
    rw [step, next]
    split
    · exact ⟨[], h⟩
    · next first rest hqueue =>
      have hpop : Mirrors row limit { l with queue := rest } pool := h.of_eq rfl rfl
      cases hnews : first.isNews with
      | true => exact ⟨[], hpop.news (news_spec hnews _)⟩
      | false =>
        cases first with
        | turn i =>
          have hledger : ({ l with queue := rest } : Loop ε α).ledger = l.ledger := by
            rw [ledger, ledger, hqueue]
            rfl
          exact hpop.exists_turn (hsteady.sound.pop hqueue) (hkept.of_ledger hledger)
            (turn_spec _ i) disk s
        | _ => cases hnews

theorem turns_append (disk : Disk) (s : Shared) (pool : Pool ε α) (first second : List Nat) :
    pool.turns disk s (first ++ second) =
      (pool.turns disk s first).2.turns disk (pool.turns disk s first).1 second := by
  induction first generalizing s pool with
  | nil => rfl
  | cons i rest ih => exact ih _ _

/-- What happens to the loop is a course of the pool. -/
theorem Mirrors.exists_after (h : Mirrors row limit l pool) (hsteady : Steady limit l)
    (hkept : Kept calls l) (ticks : List Tick) (disk : Disk) (s : Shared) :
    ∃ turns, Mirrors row limit (l.after ticks) (pool.turns disk s turns).2 := by
  induction ticks generalizing l pool s with
  | nil => exact ⟨[], h⟩
  | cons tick rest ih =>
    obtain ⟨first, hfirst⟩ := h.exists_step hsteady hkept tick disk s
    obtain ⟨second, hsecond⟩ := ih hfirst (hsteady.step tick) (hkept.step tick) _
    exact ⟨first ++ second, by rw [turns_append]; exact hsecond⟩

theorem mirrors_start (row : Json.Fields) (limit : Nat) (calls : List (Call ε α)) :
    Mirrors row limit (start limit calls) (Pool.start limit row (calls.map Call.script)) := by
  refine ⟨rfl, rfl, fun _ => ?_⟩
  rw [Pool.start, start, List.map_map, List.map_map]
  rfl

theorem firstFailure?_of_done (hkept : Kept calls l) {values : List α}
    (hdone : l.ledger.Done values) : firstFailure? l.endings = none := by
  refine firstFailure?_of_ok fun e he => ?_
  obtain ⟨i, result⟩ := e
  obtain ⟨call, doomed, hcall⟩ := (hkept.candid.told i result).1 he
  have hmem : some (some result) ∈ l.ledger.calls.map Standing.ending :=
    List.mem_map_of_mem (List.mem_of_getElem? hcall)
  rw [Done] at hdone
  rw [hdone, List.mem_map] at hmem
  obtain ⟨value, -, hvalue⟩ := hmem
  exact ⟨value, (Option.some.inj (Option.some.inj hvalue)).symm⟩

theorem map_job_of_done {values : List α} (hdone : l.ledger.Done values) :
    l.workers.map (Worker.job row) = values.map .finished := by
  refine List.ext_getElem? fun i => ?_
  have hvalue := getElem?_of_done hdone i
  rw [List.getElem?_map, List.getElem?_map]
  cases hw : l.workers[i]? with
  | none =>
    rw [hw, Option.map_none, eq_comm, Option.map_eq_none_iff] at hvalue
    rw [hvalue]
    rfl
  | some w =>
    rw [hw, Option.map_some, eq_comm, Option.map_eq_some_iff] at hvalue
    obtain ⟨value, hget, hending⟩ := hvalue
    rw [hget, Option.map_some, Option.map_some, Worker.job, phase_of_ending hending.symm]

theorem filterMap_value?_finished (values : List α) :
    (values.map .finished : List (Job ε α)).filterMap Job.value? = values := by
  rw [List.filterMap_map]
  exact List.filterMap_some

/-- Whatever an event loop comes to, a pool of the calls as scripts comes to under some course. -/
theorem exists_course {limit : Int} {ticks : List Tick} {outcome : Except ε (List α)}
    (hstart : start? limit calls = .ok l) (houtcome : (l.after ticks).outcome? = some outcome)
    (disk : Disk) (s : Shared) (row : Json.Fields) :
    ∃ pool turns, Pool.start? limit row (calls.map Call.script) = .ok pool ∧
      (pool.run disk s (.cut turns)).2 = some outcome := by
  obtain ⟨hpos, -, rfl⟩ := start?_eq_ok hstart
  have hsteady := Steady.start limit.toNat calls
  have hkept := Kept.start limit.toNat calls
  obtain ⟨turns, hmirrors⟩ :=
    (mirrors_start row limit.toNat calls).exists_after hsteady hkept ticks disk s
  refine ⟨_, turns, if_neg (by omega), ?_⟩
  rw [Pool.run]
  generalize (Pool.start limit.toNat row (calls.map Call.script)).turns disk s turns = ended
    at hmirrors
  obtain ⟨-, hcases⟩ := (hkept.after ticks).of_outcome houtcome
  obtain ⟨values, rfl, hdone⟩ | ⟨failure, rfl, i, hfirst⟩ := hcases
  · have hnone := firstFailure?_of_done (hkept.after ticks) hdone
    have hfailure : ended.2.failure = none := by rw [hmirrors.failure, hnone, Option.map_none]
    have hjobs := (hmirrors.jobs hnone).trans (map_job_of_done hdone)
    have hover : ended.2.isOver = true := by
      rw [Pool.isOver, hjobs, List.all_map]
      exact List.all_eq_true.2 fun _ _ => rfl
    simp only [hfailure, hover, Option.isSome_none, Bool.or_true, ↓reduceIte]
    rw [Pool.outcome, hfailure, hjobs, filterMap_value?_finished]
  · have hfailure : ended.2.failure = some failure :=
      hmirrors.failure.trans (congrArg (Option.map Prod.snd) hfirst)
    simp only [hfailure, Option.isSome_some, Bool.true_or, ↓reduceIte]
    rw [Pool.outcome, hfailure]

end Retrace.Loop

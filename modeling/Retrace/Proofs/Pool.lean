import Mathlib.Data.List.Forall2
import Retrace.Pool.Course
import Retrace.Proofs.Path
import Retrace.Proofs.Script

/-!
# Scripts in turns

However the turns go, every job of a pool is on its way to the result that its script has by the
disk alone: what it found in the shared cache is what the disk has. So the course of a pool decides
which of several failures ends it, and nothing else.

* `Task.Bound`, `Job.Bound`: a task or a job on its way to a result;
* `Pool.Bound`: the invariant of pools, kept by `turn_bound`, `turns_bound` and `settle_bound`;
* `Pool.outcome_eq_ok`: the values of a pool that came to its end;
* `Gathers`: the outcomes that are in keeping with results.

Main statement: `run_full`.
-/

namespace Retrace

variable {ε α : Type} {disk : Disk} {s : Shared}

/-! ### Tasks -/

/-- Whether a task is on its way to a result. -/
def Task.Bound (disk : Disk) (result : Except ε α) : Task ε α → Prop
  | .ready script => script.result disk = result
  | .queued path next => path.absolute = path ∧ (next (disk.fetched path)).result disk = result
  | .reading path _ next => path.absolute = path ∧ (next (disk.fetched path)).result disk = result
  | .ended outcome => outcome = result

theorem Script.advance_bound (h : s.cache.Faithful disk) (script : Script ε α) :
    (script.advance s).1.cache.Faithful disk ∧
      (script.advance s).2.Bound disk (script.result disk) := by
  induction script generalizing s with
  | done result => exact ⟨h, rfl⟩
  | note event next ih => exact ih (s := s.note event) h
  | pause next ih => exact ⟨h, rfl⟩
  | fetch path next ih =>
    rw [advance, result]
    cases hfound : s.cache.find? path.absolute with
    | some bytes =>
      rw [h.fetched_of_find? hfound]
      exact ih _ (s := s.note _) h
    | none =>
      dsimp only
      split
      · exact ⟨h, Path.absolute_absolute path, rfl⟩
      · exact ⟨h, Path.absolute_absolute path, rfl⟩

namespace Task

variable {task : Task ε α} {result : Except ε α}

theorem turn_bound (h : s.cache.Faithful disk) (htask : task.Bound disk result) :
    (task.turn disk s).1.cache.Faithful disk ∧ (task.turn disk s).2.Bound disk result := by
  cases task with
  | ready script =>
    cases htask
    exact Script.advance_bound h script
  | queued path next =>
    obtain ⟨hpath, rfl⟩ := htask
    rw [turn]
    split
    · exact ⟨h, hpath, rfl⟩
    · cases hfound : s.cache.find? path with
      | some bytes =>
        rw [h.fetched_of_find? hfound]
        exact Script.advance_bound (s := s.note _) h _
      | none => exact ⟨h, hpath, rfl⟩
  | reading path context next =>
    obtain ⟨hpath, rfl⟩ := htask
    rw [turn, ← Shared.finishRead_snd disk s path context]
    exact Script.advance_bound (Shared.faithful_finishRead h path context) _
  | ended outcome => exact ⟨h, htask⟩

theorem land_bound (h : s.cache.Faithful disk) (htask : task.Bound disk result) :
    (task.land disk s).1.cache.Faithful disk ∧ (task.land disk s).2.Bound disk result := by
  cases task with
  | reading path context next =>
    refine ⟨Shared.faithful_finishRead h path context, ?_⟩
    rw [land, Shared.finishRead_snd]
    exact htask.2
  | ready script => exact ⟨h, htask⟩
  | queued path next => exact ⟨h, htask⟩
  | ended outcome => exact ⟨h, htask⟩

theorem result_script (htask : task.Bound disk result) : task.script.result disk = result := by
  cases task with
  | ready script => exact htask
  | queued path next => rw [script, Script.result, htask.1, htask.2]
  | reading path context next => rw [script, Script.result, htask.1, htask.2]
  | ended outcome => exact htask

theorem faithful_drop (h : s.cache.Faithful disk) (task : Task ε α) :
    (task.drop s).cache.Faithful disk := by
  cases task <;> exact h

end Task

/-! ### Jobs -/

/-- Whether a job is on its way to a result; a job that was given up is on no way. -/
def Job.Bound (disk : Disk) (result : Except ε α) : Job ε α → Prop
  | .waiting _ script => script.result disk = result
  | .running _ task => task.Bound disk result
  | .finished value => .ok value = result
  | .dropped => False

theorem Job.faithful_release (h : s.cache.Faithful disk) (job : Job ε α) :
    (job.release s).cache.Faithful disk := by
  cases job with
  | running context task => exact task.faithful_drop h
  | waiting context script => exact h
  | finished value => exact h
  | dropped => exact h

theorem faithful_foldl_release (h : s.cache.Faithful disk) (jobs : List (Job ε α)) :
    (jobs.foldl Job.release s).cache.Faithful disk := by
  induction jobs generalizing s with
  | nil => exact h
  | cons job rest ih => exact ih (job.faithful_release h)

/-! ### Turns -/

theorem forall₂_set {β γ : Type} {R : β → γ → Prop} {as : List β} {bs : List γ} {i : Nat} {b c : γ}
    (h : List.Forall₂ R as bs) (hb : bs[i]? = some b) (hR : ∀ a, R a b → R a c) :
    List.Forall₂ R as (bs.set i c) := by
  induction h generalizing i with
  | nil => simp at hb
  | cons hfirst hrest ih =>
    cases i with
    | zero =>
      rw [List.getElem?_cons_zero, Option.some.injEq] at hb
      subst hb
      exact .cons (hR _ hfirst) hrest
    | succ i => exact .cons hfirst (ih hb)

theorem exists_of_forall₂ {β γ : Type} {R : β → γ → Prop} {as : List β} {bs : List γ} {b : γ}
    (h : List.Forall₂ R as bs) (hb : b ∈ bs) : ∃ a ∈ as, R a b := by
  induction h with
  | nil => simp at hb
  | cons hfirst _ ih =>
    rcases List.mem_cons.1 hb with rfl | hb
    · exact ⟨_, List.mem_cons_self, hfirst⟩
    · obtain ⟨a, ha, hR⟩ := ih hb
      exact ⟨a, List.mem_cons_of_mem _ ha, hR⟩

namespace Pool

variable {results : List (Except ε α)} {pool : Pool ε α}

/-- Whether a pool is on its way to results: each of its jobs is on its way to the result in its
place, or the failure that ended the pool is among them. -/
def Bound (disk : Disk) (results : List (Except ε α)) (pool : Pool ε α) : Prop :=
  match pool.failure with
  | none => List.Forall₂ (Job.Bound disk) results pool.jobs
  | some failure => .error failure ∈ results

theorem bound_start (disk : Disk) (limit : Nat) (context : Json.Fields)
    (scripts : List (Script ε α)) :
    (start limit context scripts).Bound disk (scripts.map (Script.result disk)) := by
  show List.Forall₂ _ _ (scripts.map (Job.waiting context))
  rw [List.forall₂_map_left_iff, List.forall₂_map_right_iff]
  exact List.forall₂_same.2 fun script _ => rfl

/-- A job that is brought nearer to its result keeps the pool on its way. -/
theorem bound_place {i : Nat} {job : Job ε α} (context : Json.Fields) {next : Shared × Task ε α}
    (hjobs : List.Forall₂ (Job.Bound disk) results pool.jobs) (hfailure : pool.failure = none)
    (hjob : pool.jobs[i]? = some job)
    (hnext : ∀ result, job.Bound disk result → next.2.Bound disk result)
    (hfaithful : next.1.cache.Faithful disk) :
    (pool.place i context next).1.cache.Faithful disk ∧
      (pool.place i context next).2.Bound disk results := by
  obtain ⟨s, task⟩ := next
  have hset : ∀ other : Job ε α, (∀ result, task.Bound disk result → other.Bound disk result) →
      (pool.setJob i other).Bound disk results := by
    intro other hother
    rw [Bound, show (pool.setJob i other).failure = none from hfailure]
    exact forall₂_set hjobs hjob fun result h => hother result (hnext result h)
  cases task with
  | ended outcome =>
    cases outcome with
    | ok value => exact ⟨hfaithful, hset _ fun result h => h⟩
    | error failure =>
      -- the failure is the result of this job, so it is among the results
      obtain ⟨result, hmem, hbound⟩ := exists_of_forall₂ hjobs (List.mem_of_getElem? hjob)
      have hresult : .error failure = result := hnext result hbound
      refine ⟨faithful_foldl_release hfaithful _, ?_⟩
      show .error failure ∈ results
      rwa [hresult]
  | ready script => exact ⟨hfaithful, hset _ fun result h => h⟩
  | queued path rest => exact ⟨hfaithful, hset _ fun result h => h⟩
  | reading path row rest => exact ⟨hfaithful, hset _ fun result h => h⟩

/-- A turn keeps a pool on its way and the cache faithful. -/
theorem turn_bound (h : s.cache.Faithful disk) (hpool : pool.Bound disk results) (i : Nat) :
    (pool.turn disk s i).1.cache.Faithful disk ∧ (pool.turn disk s i).2.Bound disk results := by
  rw [turn]
  cases hfailure : pool.failure with
  | some failure => exact ⟨h, hpool⟩
  | none =>
    have hjobs : List.Forall₂ (Job.Bound disk) results pool.jobs := by
      rwa [Bound, hfailure] at hpool
    cases hjob : pool.jobs[i]? with
    | none => exact ⟨h, hpool⟩
    | some job =>
      cases job with
      | finished value => exact ⟨h, hpool⟩
      | dropped => exact ⟨h, hpool⟩
      | running context task =>
        have hturn : ∀ result, Job.Bound disk result (.running context task) →
            (task.turn disk (s.enter context)).1.cache.Faithful disk ∧
              (task.turn disk (s.enter context)).2.Bound disk result :=
          fun result => Task.turn_bound (s := s.enter context) h
        obtain ⟨result, -, hbound⟩ := exists_of_forall₂ hjobs (List.mem_of_getElem? hjob)
        exact bound_place context hjobs hfailure hjob (fun result hb => (hturn result hb).2)
          (hturn result hbound).1
      | waiting context script =>
        rw [Option.isSome_none, if_neg Bool.false_ne_true]
        dsimp only
        split
        · -- the job runs before its first turn, which it takes at once
          have hset : List.Forall₂ (Job.Bound disk) results
              (pool.setJob i (.running context (.ready script))).jobs :=
            forall₂_set hjobs hjob fun result hscript => hscript
          have hrunning : (pool.setJob i (.running context (.ready script))).jobs[i]? =
              some (.running context (.ready script)) :=
            List.getElem?_set_self (List.getElem?_eq_some_iff.1 hjob).1
          have hadvance := Script.advance_bound (s := s.enter context) h script
          refine bound_place context hset hfailure hrunning (fun result hscript => ?_) hadvance.1
          rw [← show script.result disk = result from hscript]
          exact hadvance.2
        · exact ⟨h, hpool⟩

/-- A course keeps a pool on its way and the cache faithful. -/
theorem turns_bound (h : s.cache.Faithful disk) (hpool : pool.Bound disk results)
    (course : List Nat) :
    (pool.turns disk s course).1.cache.Faithful disk ∧
      (pool.turns disk s course).2.Bound disk results := by
  induction course generalizing s pool with
  | nil => exact ⟨h, hpool⟩
  | cons i rest ih =>
    obtain ⟨hturn, hbound⟩ := turn_bound h hpool i
    exact ih hturn hbound

end Pool

/-! ### The end of a pool -/

theorem landAll_bound {results : List (Except ε α)} {jobs : List (Job ε α)}
    (h : s.cache.Faithful disk) (hjobs : List.Forall₂ (Job.Bound disk) results jobs) :
    (Pool.landAll disk s jobs).1.cache.Faithful disk ∧
      List.Forall₂ (Job.Bound disk) results (Pool.landAll disk s jobs).2 := by
  induction hjobs generalizing s with
  | nil => exact ⟨h, .nil⟩
  | @cons result job results jobs hjob hrest ih =>
    cases job with
    | running context task =>
      obtain ⟨hland, hbound⟩ := Task.land_bound (s := s.enter context) h hjob
      obtain ⟨hothers, hbounds⟩ := ih (s := (s.within context fun s => task.land disk s).1) hland
      exact ⟨hothers, .cons hbound hbounds⟩
    | waiting context script => exact ⟨(ih h).1, .cons hjob (ih h).2⟩
    | finished value => exact ⟨(ih h).1, .cons hjob (ih h).2⟩
    | dropped => exact ⟨(ih h).1, .cons hjob (ih h).2⟩

/-- Whether jobs that were brought to their end keep to the results: a failure is among them, and
otherwise each job is on its way and as it should be. -/
def KeepsTo (disk : Disk) (results : List (Except ε α)) (P : Job ε α → Prop) :
    Except ε (List (Job ε α)) → Prop
  | .error failure => .error failure ∈ results
  | .ok jobs => List.Forall₂ (Job.Bound disk) results jobs ∧ ∀ job ∈ jobs, P job

theorem KeepsTo.cons {results : List (Except ε α)} {P : Job ε α → Prop} {result : Except ε α}
    {job : Job ε α} {outcome : Except ε (List (Job ε α))} (hjob : job.Bound disk result)
    (hP : P job) (h : KeepsTo disk results P outcome) :
    KeepsTo disk (result :: results) P (outcome.map (job :: ·)) := by
  cases outcome with
  | error failure => exact List.mem_cons_of_mem _ h
  | ok jobs => exact ⟨.cons hjob h.1, List.forall_mem_cons.2 ⟨hP, h.2⟩⟩

/-- Bringing some jobs to their end finishes those and leaves the others as they are. -/
theorem finishEach_bound {results : List (Except ε α)} {jobs : List (Job ε α)}
    (left? : Job ε α → Option (Json.Fields × Script ε α)) (P : Job ε α → Prop)
    (h : s.cache.Faithful disk)
    (hjobs : List.Forall₂ (Job.Bound disk) results jobs)
    (hleft : ∀ job left result, left? job = some left → Job.Bound disk result job →
      left.2.result disk = result)
    (hfinished : ∀ value, P (.finished value)) (hP : ∀ job ∈ jobs, left? job = none → P job) :
    (Pool.finishEach disk left? s jobs).1.cache.Faithful disk ∧
      KeepsTo disk results P (Pool.finishEach disk left? s jobs).2 := by
  -- the first failure ends it, so the jobs behind it need not be on their way any more
  induction hjobs generalizing s with
  | nil => exact ⟨h, .nil, by simp⟩
  | @cons result job results jobs hjob hrest ih =>
    obtain ⟨hP, hPrest⟩ := List.forall_mem_cons.1 hP
    rw [Pool.finishEach]
    cases hscript : left? job with
    | none =>
      obtain ⟨hothers, hkeeps⟩ := ih h hPrest
      exact ⟨hothers, hkeeps.cons hjob (hP hscript)⟩
    | some left =>
      obtain ⟨context, script⟩ := left
      obtain ⟨hresult, halone⟩ := Script.runAlone_faithful (s := s.enter context) h script
      rw [hleft job (context, script) result hscript hjob] at hresult
      have hresult : (s.within context fun s => script.runAlone disk s).2 = result := hresult
      have halone : (s.within context fun s => script.runAlone disk s).1.cache.Faithful disk :=
        halone
      dsimp only
      split
      · rename_i s' failure heq
        rw [heq] at hresult halone
        exact ⟨halone, hresult ▸ List.mem_cons_self⟩
      · rename_i s' value heq
        rw [heq] at hresult halone
        obtain ⟨hothers, hkeeps⟩ := ih halone hPrest
        exact ⟨hothers, hkeeps.cons hresult (hfinished value)⟩

section Left

variable {result : Except ε α} {job : Job ε α} {left : Json.Fields × Script ε α}

/-- What is left of a job that has begun comes to its result. -/
theorem Job.result_of_begun? (h : job.Bound disk result) (hscript : job.begun? = some left) :
    left.2.result disk = result := by
  cases job with
  | running context task =>
    cases hscript
    exact task.result_script h
  | waiting context script => cases hscript
  | finished value => cases hscript
  | dropped => cases hscript

/-- What is left of a job that has not begun comes to its result. -/
theorem Job.result_of_fresh? (h : job.Bound disk result) (hscript : job.fresh? = some left) :
    left.2.result disk = result := by
  cases job with
  | waiting context script =>
    cases hscript
    exact h
  | running context task => cases hscript
  | finished value => cases hscript
  | dropped => cases hscript

theorem Job.finished_of_bound (h : job.Bound disk result) (hbegun : job.begun? = none)
    (hfresh : job.fresh? = none) : ∃ value, job = .finished value := by
  cases job with
  | waiting context script => cases hfresh
  | running context task => cases hbegun
  | finished value => exact ⟨value, rfl⟩
  | dropped => exact h.elim

end Left

namespace Pool

variable {results : List (Except ε α)} {pool : Pool ε α}

/-- A pool that is brought to its end stays on its way, and nothing is left unless it failed. -/
theorem settle_bound (h : s.cache.Faithful disk) (hpool : pool.Bound disk results) :
    (pool.settle disk s).1.cache.Faithful disk ∧ (pool.settle disk s).2.Bound disk results ∧
      ((pool.settle disk s).2.failure = none →
        ∀ job ∈ (pool.settle disk s).2.jobs, ∃ value, job = .finished value) := by
  rw [settle]
  cases hfailure : pool.failure with
  | some failure =>
    refine ⟨h, hpool, fun hnone => ?_⟩
    have hnone : pool.failure = none := hnone
    rw [hfailure] at hnone
    cases hnone
  | none =>
    rw [Option.isSome_none, if_neg Bool.false_ne_true]
    have hjobs : List.Forall₂ (Job.Bound disk) results pool.jobs := by
      rwa [Bound, hfailure] at hpool
    obtain ⟨hland, hlanded⟩ := landAll_bound h hjobs
    -- first the jobs that have begun are brought to their end, then those that have not
    obtain ⟨hbegun, hkeeps⟩ :=
      finishEach_bound Job.begun? (fun job => job.begun? = none) hland hlanded
        (fun job left result hscript hjob => Job.result_of_begun? hjob hscript)
        (fun value => rfl) (fun job _ hnone => hnone)
    dsimp only
    split
    · rename_i s' failure heq
      rw [heq] at hbegun hkeeps
      exact ⟨hbegun, hkeeps, fun hnone => by cases hnone⟩
    · rename_i s' jobs heq
      rw [heq] at hbegun hkeeps
      obtain ⟨hfresh, hkeeps'⟩ :=
        finishEach_bound Job.fresh? (fun job => job.begun? = none ∧ job.fresh? = none) hbegun
          hkeeps.1 (fun job left result hscript hjob => Job.result_of_fresh? hjob hscript)
          (fun value => ⟨rfl, rfl⟩) (fun job hmem hnone => ⟨hkeeps.2 job hmem, hnone⟩)
      split
      · rename_i s'' failure heq'
        rw [heq'] at hfresh hkeeps'
        exact ⟨hfresh, hkeeps', fun hnone => by cases hnone⟩
      · rename_i s'' jobs' heq'
        rw [heq'] at hfresh hkeeps'
        refine ⟨hfresh, hkeeps'.1, fun _ job hmem => ?_⟩
        obtain ⟨result, -, hbound⟩ := exists_of_forall₂ hkeeps'.1 hmem
        exact Job.finished_of_bound hbound (hkeeps'.2 job hmem).1 (hkeeps'.2 job hmem).2

/-- The values of a pool that came to its end are the results. -/
theorem outcome_eq_ok (hjobs : List.Forall₂ (Job.Bound disk) results pool.jobs)
    (hfinished : ∀ job ∈ pool.jobs, ∃ value, job = .finished value) :
    results = (pool.jobs.filterMap Job.value?).map .ok := by
  generalize pool.jobs = jobs at hjobs hfinished
  induction hjobs with
  | nil => rfl
  | @cons result job results jobs hjob hrest ih =>
    obtain ⟨⟨value, rfl⟩, hothers⟩ := List.forall_mem_cons.1 hfinished
    have hresult : .ok value = result := hjob
    rw [List.filterMap_cons_some (f := Job.value?) rfl, List.map_cons, ← ih hothers, hresult]

end Pool

/-- Whether an outcome gathers results: it has all their values, or one of their failures. -/
def Gathers (results : List (Except ε α)) : Except ε (List α) → Prop
  | .ok values => results = values.map .ok
  | .error failure => .error failure ∈ results

/-- A pool that gets all the turns it needs ends: with the values of its scripts if each of them has
one by the disk alone, and otherwise with one of their failures. -/
theorem Pool.run_full (h : s.cache.Faithful disk) (limit : Nat) (context : Json.Fields)
    (scripts : List (Script ε α)) (course : List Nat) :
    ∃ outcome, ((start limit context scripts).run disk s (.full course)).2 = some outcome ∧
      Gathers (scripts.map (Script.result disk)) outcome := by
  obtain ⟨hturns, hbound⟩ := turns_bound h (bound_start disk limit context scripts) course
  obtain ⟨-, hsettled, hfinished⟩ := settle_bound hturns hbound
  refine ⟨_, rfl, ?_⟩
  generalize (settle disk _ _).2 = ended at hsettled hfinished
  rw [Bound] at hsettled
  rw [outcome]
  cases hfailure : ended.failure with
  | some failure => rwa [hfailure] at hsettled
  | none =>
    rw [hfailure] at hsettled
    exact outcome_eq_ok hsettled (hfinished hfailure)

end Retrace

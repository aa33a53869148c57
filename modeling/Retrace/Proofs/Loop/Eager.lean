import Retrace.Proofs.Loop.Gather

/-!
# Eager runs

A loop whose calls go on as soon as they can is a run like any other, and it was given enough steps
once they are as many as there are things that can happen.

* `exists_after_wakes`: waking calls is a run, after which none of them is asleep;
* `exists_after_eager`: so is an eager run, of at least as many things as it has steps, unless
  nothing more can happen.

Main statements: `eager_settles` and `peak_le`.
-/

namespace Retrace.Loop

variable {ε α : Type} {calls : List (Call ε α)} {l : Loop ε α} {i j : Nat}

theorem after_append (l : Loop ε α) (first second : List Tick) :
    l.after (first ++ second) = (l.after first).after second :=
  List.foldl_append

theorem canRun_append {first second : List Tick} (hfirst : l.canRun first = true)
    (hsecond : (l.after first).canRun second = true) : l.canRun (first ++ second) = true := by
  induction first generalizing l with
  | nil => exact hsecond
  | cons tick rest ih =>
    rw [canRun, Bool.and_eq_true] at hfirst
    rw [List.cons_append, canRun, Bool.and_eq_true]
    exact ⟨hfirst.1, ih hfirst.2 hsecond⟩

/-! ### Waking -/

theorem wake_of_not_asleep (h : l.canHappen (.wake i) = false) : l.wake i = l := by
  rw [wake]
  split
  · next hw => simp [canHappen, hw, Worker.isAsleep] at h
  · rfl

/-- Whoever is asleep after a call was woken is another call, which was asleep before. -/
theorem canHappen_wake (h : (l.wake j).canHappen (.wake i) = true) :
    i ≠ j ∧ l.canHappen (.wake i) = true := by
  cases hj : l.canHappen (.wake j) with
  | false =>
    rw [wake_of_not_asleep hj] at h
    refine ⟨?_, h⟩
    rintro rfl
    exact Bool.false_ne_true (hj.symm.trans h)
  | true =>
    obtain ⟨⟨call, phase, doomed⟩, hw, hasleep⟩ := (Option.any_eq_true _ _).1 hj
    cases phase with
    | running left awake =>
      obtain rfl : awake = false := by simpa [Worker.isAsleep] using hasleep
      have hworkers : (l.wake j).workers = l.workers.set j ⟨call, .running left true, doomed⟩ := by
        rw [wake, hw]
        exact workers_setPhase hw _
      rw [canHappen, hworkers] at h
      by_cases hij : i = j
      · subst hij
        rw [List.getElem?_set_self (List.getElem?_eq_some_iff.1 hw).1] at h
        exact absurd h Bool.false_ne_true
      · rw [List.getElem?_set_ne (Ne.symm hij)] at h
        exact ⟨hij, h⟩
    | _ => exact absurd hasleep Bool.false_ne_true

theorem exists_after_wakes (l : Loop ε α) (is : List Nat) :
    ∃ ticks, l.canRun ticks = true ∧ is.foldl wake l = l.after ticks ∧
      ∀ i, (is.foldl wake l).canHappen (.wake i) = true →
        i ∉ is ∧ l.canHappen (.wake i) = true := by
  induction is generalizing l with
  | nil => exact ⟨[], rfl, rfl, fun i hi => ⟨List.not_mem_nil, hi⟩⟩
  | cons j rest ih =>
    obtain ⟨ticks, hrun, hafter, hothers⟩ := ih (l.wake j)
    have hasleep : ∀ i, ((j :: rest).foldl wake l).canHappen (.wake i) = true →
        i ∉ j :: rest ∧ l.canHappen (.wake i) = true := by
      intro i hi
      obtain ⟨hnot, hbefore⟩ := hothers i hi
      obtain ⟨hne, hbefore⟩ := canHappen_wake hbefore
      exact ⟨List.not_mem_cons_of_ne_of_not_mem hne hnot, hbefore⟩
    cases hj : l.canHappen (.wake j) with
    | false =>
      rw [wake_of_not_asleep hj] at hrun hafter
      refine ⟨ticks, hrun, ?_, hasleep⟩
      rw [List.foldl_cons, wake_of_not_asleep hj, hafter]
    | true => exact ⟨.wake j :: ticks, Bool.and_eq_true_iff.2 ⟨hj, hrun⟩, hafter, hasleep⟩

/-! ### Eager runs -/

/-- Nothing can happen any more. -/
def IsStill (l : Loop ε α) : Prop := ∀ tick, l.canHappen tick = false

theorem next_of_nil (h : l.queue = []) : l.next = l := by
  rw [next, h]

theorem foldl_wake_of_isStill (h : l.IsStill) (is : List Nat) : is.foldl wake l = l := by
  induction is with
  | nil => rfl
  | cons i rest ih => rw [List.foldl_cons, wake_of_not_asleep (h _), ih]

theorem IsStill.eager (h : l.IsStill) (steps : Nat) : l.eager steps = l := by
  induction steps with
  | zero => rfl
  | succ steps ih =>
    have hqueue : l.queue = [] := by simpa [canHappen] using h .next
    rw [Loop.eager, next_of_nil hqueue, foldl_wake_of_isStill h, ih]

theorem Kept.length_workers (h : Kept calls l) : l.workers.length = calls.length := by
  rw [← h.calls, List.length_map, ledger, List.length_map]

/-- An eager run is a run, of at least as many things as it has steps unless nothing more can
happen. -/
theorem exists_after_eager (hkept : Kept calls l) (hawake : ∀ i, l.canHappen (.wake i) = false)
    (steps : Nat) : ∃ ticks, l.canRun ticks = true ∧ l.eager steps = l.after ticks ∧
      (steps ≤ ticks.length ∨ (l.eager steps).IsStill) := by
  induction steps generalizing l with
  | zero => exact ⟨[], rfl, rfl, .inl (Nat.zero_le _)⟩
  | succ steps ih =>
    cases hnext : l.canHappen .next with
    | false =>
      have hstill : l.IsStill := fun
        | .next => hnext
        | .wake i => hawake i
      exact ⟨[], rfl, hstill.eager _, .inr (by rwa [hstill.eager])⟩
    | true =>
      obtain ⟨wakes, hwakes, hafter, hothers⟩ :=
        exists_after_wakes l.next (List.range l.workers.length)
      have hkept' := hkept.next.after wakes
      have hawake' : ∀ i, (l.next.after wakes).canHappen (.wake i) = false := by
        intro i
        by_contra hne
        rw [← hafter] at hne
        obtain ⟨hnot, hi⟩ := hothers i (Bool.not_eq_false _ ▸ hne)
        obtain ⟨w, hw, -⟩ := (Option.any_eq_true _ _).1 hi
        have hlt := (List.getElem?_eq_some_iff.1 hw).1
        rw [hkept.next.length_workers, ← hkept.length_workers] at hlt
        exact hnot (List.mem_range.2 hlt)
      obtain ⟨ticks, hrun, hrest, hend⟩ := ih hkept' hawake'
      have heager : l.eager (steps + 1) = (l.next.after wakes).eager steps := by
        rw [Loop.eager, hafter]
      refine ⟨.next :: (wakes ++ ticks), Bool.and_eq_true_iff.2 ⟨hnext, canRun_append hwakes hrun⟩,
        ?_, ?_⟩
      · rw [heager, hrest, ← after_append]
        rfl
      · rw [heager, List.length_cons, List.length_append]
        exact hend.imp_left fun hle => by omega

theorem not_asleep_start (limit : Nat) (calls : List (Call ε α)) (i : Nat) :
    (start limit calls).canHappen (.wake i) = false := by
  by_contra hne
  obtain ⟨w, hw, hasleep⟩ := (Option.any_eq_true _ _).1 (Bool.not_eq_false _ ▸ hne)
  obtain ⟨call, -, rfl⟩ := getElem?_workers_start.1 hw
  exact Bool.false_ne_true hasleep

/-- The eager run of a gathering, with as many steps as there are things that can happen, is a run
that comes to an outcome. -/
theorem eager_settles {limit : Int} (hstart : start? limit calls = .ok l) :
    ∃ ticks outcome, l.canRun ticks = true ∧ l.eager l.size = l.after ticks ∧
      (l.eager l.size).outcome? = some outcome := by
  obtain ⟨hpos, -, rfl⟩ := start?_eq_ok hstart
  have hkept := Kept.start limit.toNat calls
  obtain ⟨ticks, hrun, heager, hend⟩ :=
    exists_after_eager hkept (not_asleep_start _ calls) (start limit.toNat calls).size
  have hstill : ∀ tick, ((start limit.toNat calls).after ticks).canHappen tick = false := by
    intro tick
    rcases hend with hlength | hstill
    · -- so many things happened that nothing can happen any more
      by_contra hne
      have hsize := length_add_size_after_le hrun
      have hless := size_step_lt (Bool.not_eq_false _ ▸ hne)
      omega
    · exact heager ▸ hstill tick
  cases houtcome : ((start limit.toNat calls).after ticks).outcome? with
  | some outcome => exact ⟨ticks, outcome, hrun, heager, heager ▸ houtcome⟩
  | none =>
    have hsteady := (Steady.start limit.toNat calls).after ticks
    obtain ⟨tick, htick⟩ := exists_canHappen hpos hsteady (hkept.after ticks) houtcome
    exact absurd htick (Bool.eq_false_iff.1 (hstill tick))

/-! ### Peaks -/

theorem peakFrom_le {bound running : Nat} {marks : List (Mark ε α)}
    (h : ∀ past, past <+: marks → past.foldl Mark.running running ≤ bound) :
    peakFrom running marks ≤ bound := by
  induction marks generalizing running with
  | nil => exact h [] List.nil_prefix
  | cons mark rest ih =>
    refine Nat.max_le.2 ⟨h [] List.nil_prefix, ih fun past hpast => ?_⟩
    exact h (mark :: past) (List.prefix_cons_inj mark |>.2 hpast)

/-- The greatest number of calls that ran at a time is within the limit. -/
theorem peak_le {limit : Int} (hstart : start? limit calls = .ok l) (ticks : List Tick) :
    ((l.after ticks).peak : Int) ≤ limit := by
  obtain ⟨-, hlimit, rfl⟩ := start?_eq_ok hstart
  rw [← hlimit]
  exact Int.ofNat_le.2 (peakFrom_le ((Steady.start limit.toNat calls).after ticks).sound.bounded)

end Retrace.Loop

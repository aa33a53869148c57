import Retrace.Proofs.Loop.Measure
import Retrace.Proofs.Loop.News

/-!
# Gathering calls with a bound

Whichever calls are gathered and in whichever order they go on, never more of them run than there
are places, and the gathering ends: with the values of all calls in their order, or with the failure
of the first call that failed, and then no call is left.

* `exists_canHappen`: a gathering that did not end can go on;
* `ranOnce`: what the log tells of a call that ran once and to its end;
* `Kept.of_outcome`: the outcomes that a gathering can have.

Main statement: `gathering_settles`.
-/

namespace Retrace.Loop

open Ledger

variable {ε α : Type} {limit : Nat} {calls : List (Call ε α)} {l : Loop ε α} {w : Worker ε α}
  {outcome : Except ε (List α)}

/-! ### Progress -/

/-- A call to which no turn is due, and which is not asleep, waits for a place or ended. -/
theorem Worker.isWaiting_or_isOver (hdue : w.due = 0) (hasleep : w.isAsleep = false) :
    w.isWaiting = true ∨ w.isOver = true := by
  rcases w with ⟨call, phase, doomed⟩
  cases phase with
  | fresh => cases hdue
  | waiting =>
    cases doomed with
    | false => exact .inl rfl
    | true => cases hdue
  | admitted => cases hdue
  | running left awake =>
    cases awake with
    | false => cases hasleep
    | true => cases hdue
  | done result => exact .inr rfl

theorem Worker.seats_eq_zero (h : w.isWaiting = true ∨ w.isOver = true) : w.seats = 0 := by
  rcases w with ⟨call, phase, doomed⟩
  cases phase <;> first | rfl | simp [isWaiting, isOver] at h

/-- If nothing can happen to the calls of a loop with places, all of them ended. -/
theorem Steady.isOver (h : Steady limit l) (hlimit : 0 < limit) (hqueue : l.queue = [])
    (hasleep : ∀ w ∈ l.workers, w.isAsleep = false) : ∀ w ∈ l.workers, w.isOver = true := by
  have hrest : ∀ w ∈ l.workers, w.isWaiting = true ∨ w.isOver = true := by
    intro w hmem
    obtain ⟨i, hw⟩ := List.mem_iff_getElem?.1 hmem
    have hdue := h.sound.due i w hw
    rw [hqueue] at hdue
    exact Worker.isWaiting_or_isOver hdue.symm (hasleep w hmem)
  have hseats : l.weigh Worker.seats = 0 :=
    total_eq_zero fun w hmem => Worker.seats_eq_zero (hrest w hmem)
  have hplaces := h.sound.places
  -- a call that waits would have been given one of the places, which are all free
  intro w hmem
  refine (hrest w hmem).resolve_left fun hwaiting => ?_
  obtain ⟨i, hw⟩ := List.mem_iff_getElem?.1 hmem
  rcases h.noLost i (by rw [isWaiting, hw, Option.any_some, hwaiting]) with hfree | ⟨j, hj⟩
  · omega
  · obtain ⟨call, doomed, hother⟩ := isAdmitted_eq_true.1 hj
    rcases hrest _ (List.mem_of_getElem? hother) with hnot | hnot <;>
      exact absurd hnot Bool.false_ne_true

theorem isOver_ledger (l : Loop ε α) : l.ledger.IsOver ↔ ∀ w ∈ l.workers, w.isOver = true := by
  have hone : ∀ w : Worker ε α, w.standing.ending.isSome = w.isOver := by
    rintro ⟨call, phase, doomed⟩
    cases phase <;> rfl
  simp [IsOver, ledger, hone]

theorem outcome?_eq (hgathering : l.gathering = .ended outcome) : l.outcome? = some outcome := by
  rw [outcome?, hgathering]

/-- A gathering that did not end can go on. -/
theorem exists_canHappen (hlimit : 0 < limit) (hsteady : Steady limit l) (hkept : Kept calls l)
    (houtcome : l.outcome? = none) : ∃ tick, l.canHappen tick = true := by
  by_contra hnone
  have hqueue : l.queue = [] := by
    by_contra hne
    exact hnone ⟨.next, by simpa [canHappen] using hne⟩
  have hasleep : ∀ w ∈ l.workers, w.isAsleep = false := by
    intro w hmem
    obtain ⟨i, hw⟩ := List.mem_iff_getElem?.1 hmem
    by_contra hne
    exact hnone ⟨.wake i, by simpa [canHappen, hw] using hne⟩
  have hover : l.ledger.ended = l.ledger.calls.length :=
    List.countP_eq_length.2 ((isOver_ledger l).2 (hsteady.isOver hlimit hqueue hasleep))
  have hnews : l.ledger.news = [] := by
    rw [ledger, hqueue]
    rfl
  cases hkept.staged with
  | listening noted pending hgathering hendings hnoted hpending hall hfew hspared hearly =>
    -- all calls ended, but not all of their ends are in the queue or noted
    rw [hnews] at hpending
    obtain rfl : pending = [] := List.map_eq_nil_iff.1 hpending.symm
    rw [hendings, List.append_nil] at hall
    omega
  | succeeded values hgathering hdone hresume => exact List.not_mem_nil (hnews ▸ hresume)
  | failed failure hgathering hfirst hresume hearly => exact List.not_mem_nil (hnews ▸ hresume)
  | clearing failure heard hgathering hfirst hdoomed hcount hfew =>
    rw [hnews] at hcount
    exact absurd hcount (by rw [List.countP_nil]; omega)
  | cleared failure hgathering hfirst hall hresume => exact List.not_mem_nil (hnews ▸ hresume)
  | returned values hgathering hdone =>
    rw [outcome?_eq hgathering] at houtcome
    cases houtcome
  | raised failure hgathering hfirst hall =>
    rw [outcome?_eq hgathering] at houtcome
    cases houtcome

/-! ### Outcomes -/

/-- What a call does that runs once, and to its end. -/
def ranOnce (i : Nat) (call : Call ε α) : List (Mark ε α) :=
  .entered i :: (List.replicate call.yields (.paused i) ++ [.ended i call.result])

theorem Kept.getElem?_calls (h : Kept calls l) (i : Nat) :
    calls[i]? = l.workers[i]?.map Worker.call := by
  rw [← h.calls, List.getElem?_map, Loop.getElem?_calls, Option.map_map]
  rfl

theorem phase_of_ending {result : Option (Except ε α)} (h : w.phase.ending = some result) :
    w.phase = .done result := by
  rcases w with ⟨call, phase, doomed⟩
  cases phase <;> cases h
  rfl

/-- A call that ended and was not cancelled ran once, and ended with its result. -/
theorem Steady.marksOf_of_ending (h : Steady limit l) {i : Nat} {result : Except ε α}
    (hw : l.workers[i]? = some w) (hending : w.phase.ending = some (some result)) :
    result = w.call.result ∧ l.marksOf i = ranOnce i w.call := by
  have hstory := h.sound.story i w hw
  rw [Worker.Story, phase_of_ending hending] at hstory
  obtain ⟨rfl, hmarks⟩ := hstory
  exact ⟨rfl, hmarks⟩

theorem getElem?_of_done {values : List α} (hdone : l.ledger.Done values) (i : Nat) :
    l.workers[i]?.map (fun w => w.phase.ending) =
      values[i]?.map fun value => some (some (.ok value)) := by
  have hget := congrArg (fun endings => endings[i]?) hdone
  simp only [List.getElem?_map, getElem?_calls, Option.map_map] at hget
  exact hget

/-- A gathering that ended with values did so after all calls ran to their ends. -/
theorem Steady.ran_of_done (hsteady : Steady limit l) (hkept : Kept calls l) {values : List α}
    (hdone : l.ledger.Done values) :
    calls.map Call.result = values.map .ok ∧
      ∀ i call, calls[i]? = some call → l.marksOf i = ranOnce i call := by
  constructor
  · refine List.ext_getElem? fun i => ?_
    have hvalue := getElem?_of_done hdone i
    rw [List.getElem?_map, List.getElem?_map, hkept.getElem?_calls]
    cases hw : l.workers[i]? with
    | none =>
      rw [hw, Option.map_none, eq_comm, Option.map_eq_none_iff] at hvalue
      rw [hvalue]
      rfl
    | some w =>
      rw [hw, Option.map_some, eq_comm, Option.map_eq_some_iff] at hvalue
      obtain ⟨value, hget, hending⟩ := hvalue
      rw [hget, Option.map_some, Option.map_some, Option.map_some,
        (hsteady.marksOf_of_ending hw hending.symm).1]
  · intro i call hcall
    rw [hkept.getElem?_calls, Option.map_eq_some_iff] at hcall
    obtain ⟨w, hw, rfl⟩ := hcall
    have hvalue := getElem?_of_done hdone i
    rw [hw, Option.map_some, eq_comm, Option.map_eq_some_iff] at hvalue
    obtain ⟨value, -, hending⟩ := hvalue
    exact (hsteady.marksOf_of_ending hw hending.symm).2

/-- The first failure is that of a call. -/
theorem Steady.result_of_firstFailure (hsteady : Steady limit l) (hkept : Kept calls l) {i : Nat}
    {failure : ε} (hfirst : firstFailure? l.endings = some (i, failure)) :
    ∃ call ∈ calls, call.result = .error failure := by
  rw [firstFailure?] at hfirst
  obtain ⟨⟨j, result⟩, hmem, hresult⟩ := List.exists_of_findSome?_eq_some hfirst
  cases result with
  | ok value => cases hresult
  | error failure' =>
    cases hresult
    obtain ⟨call, doomed, hcall⟩ := (hkept.candid.told i (.error failure)).1 hmem
    rw [getElem?_calls, Option.map_eq_some_iff] at hcall
    obtain ⟨w, hw, hstanding⟩ := hcall
    obtain ⟨-, hending, -⟩ := Standing.mk.inj hstanding
    refine ⟨w.call, List.mem_of_getElem? (i := i) ?_, ?_⟩
    · rw [hkept.getElem?_calls, hw, Option.map_some]
    · exact (hsteady.marksOf_of_ending hw hending).1.symm

theorem Worker.left_of_isOver (h : w.isOver = true) : w.isInLine = false ∧ w.runs = 0 := by
  rcases w with ⟨call, phase, doomed⟩
  cases phase with
  | done result => exact ⟨rfl, rfl⟩
  | _ => exact absurd h Bool.false_ne_true

/-- When all calls ended, nobody stands in line, and no call runs. -/
theorem Steady.nobody_of_isOver (h : Steady limit l) (hover : ∀ w ∈ l.workers, w.isOver = true) :
    l.line = [] ∧ runningAt l.log = 0 := by
  constructor
  · refine List.eq_nil_iff_forall_not_mem.2 fun i hi => ?_
    obtain ⟨w, hw, hline⟩ := (Option.any_eq_true _ _).1 ((h.sound.mem_line i).1 hi)
    have hleft := (Worker.left_of_isOver (hover w (List.mem_of_getElem? hw))).1
    exact Bool.false_ne_true (hleft.symm.trans hline)
  · rw [h.sound.running]
    exact total_eq_zero fun w hmem => (Worker.left_of_isOver (hover w hmem)).2

theorem gathering_of_outcome? (h : l.outcome? = some outcome) : l.gathering = .ended outcome := by
  rw [outcome?] at h
  split at h
  · next hgathering => rw [hgathering, Option.some.inj h]
  · cases h

/-- A gathering ends with the values of all calls, or with the first failure, and then all calls
ended. -/
theorem Kept.of_outcome (h : Kept calls l) (houtcome : l.outcome? = some outcome) :
    l.ledger.IsOver ∧ ((∃ values, outcome = .ok values ∧ l.ledger.Done values) ∨
      ∃ failure, outcome = .error failure ∧ l.ledger.FailedWith failure) := by
  have hended : l.ledger.gathering = .ended outcome := gathering_of_outcome? houtcome
  cases h.staged with
  | returned values hgathering hdone =>
    obtain rfl : outcome = .ok values := Gathering.ended.inj (hended.symm.trans hgathering)
    exact ⟨hdone.isOver, .inl ⟨values, rfl, hdone⟩⟩
  | raised failure hgathering hfirst hover =>
    obtain rfl : outcome = .error failure := Gathering.ended.inj (hended.symm.trans hgathering)
    exact ⟨hover, .inr ⟨failure, rfl, hfirst⟩⟩
  | listening noted pending hgathering => exact nomatch hended.symm.trans hgathering
  | succeeded values hgathering => exact nomatch hended.symm.trans hgathering
  | failed failure hgathering => exact nomatch hended.symm.trans hgathering
  | clearing failure heard hgathering => exact nomatch hended.symm.trans hgathering
  | cleared failure hgathering => exact nomatch hended.symm.trans hgathering

/-! ### The statement -/

theorem start?_eq_ok {limit : Int} (h : start? limit calls = .ok l) :
    0 < limit.toNat ∧ (limit.toNat : Int) = limit ∧ l = start limit.toNat calls := by
  rw [start?] at h
  split at h
  · cases h
  · exact ⟨by omega, by omega, (Except.ok.inj h).symm⟩

/-- However the calls of a gathering go on, at no time do more of them run than its limit allows.
The gathering ends: it can go on until it did, and not for ever. If no call fails, its outcome has
the results of the calls in their order, and each call ran exactly once. If some call fails, its
outcome is the failure of the call that failed first, and by then all calls ended, nobody waits and
no call runs. -/
theorem gathering_settles {limit : Int} {ticks : List Tick} (hstart : start? limit calls = .ok l)
    (hrun : l.canRun ticks = true) :
    (∀ past, past <+: (l.after ticks).log → (runningAt past : Int) ≤ limit) ∧
    ticks.length ≤ l.size ∧
    ((l.after ticks).outcome? = none → ∃ tick, (l.after ticks).canHappen tick = true) ∧
    ∀ outcome, (l.after ticks).outcome? = some outcome →
      ((∀ call ∈ calls, ∃ value, call.result = .ok value) →
        (∃ values, outcome = .ok values ∧ calls.map Call.result = values.map .ok) ∧
        ∀ i call, calls[i]? = some call → (l.after ticks).marksOf i = ranOnce i call) ∧
      ((∃ call ∈ calls, ∃ failure, call.result = .error failure) →
        (∃ i failure, firstFailure? (l.after ticks).endings = some (i, failure) ∧
          outcome = .error failure) ∧
        (∀ w ∈ (l.after ticks).workers, w.isOver = true) ∧
        (l.after ticks).line = [] ∧ runningAt (l.after ticks).log = 0) := by
  obtain ⟨hpos, hlimit, rfl⟩ := start?_eq_ok hstart
  have hsteady := (Steady.start limit.toNat calls).after ticks
  have hkept := (Kept.start limit.toNat calls).after ticks
  refine ⟨fun past hpast => ?_, ?_, exists_canHappen hpos hsteady hkept, fun outcome houtcome => ?_⟩
  · rw [← hlimit]
    exact Int.ofNat_le.2 (hsteady.sound.bounded past hpast)
  · exact Nat.le_of_add_right_le (length_add_size_after_le hrun)
  · obtain ⟨hover, hcases⟩ := hkept.of_outcome houtcome
    have hover := (isOver_ledger _).1 hover
    constructor
    · intro hvalues
      obtain ⟨values, rfl, hdone⟩ | ⟨failure, rfl, i, hfirst⟩ := hcases
      · obtain ⟨hresults, hmarks⟩ := hsteady.ran_of_done hkept hdone
        exact ⟨⟨values, rfl, hresults⟩, hmarks⟩
      · obtain ⟨call, hcall, hresult⟩ := hsteady.result_of_firstFailure hkept hfirst
        obtain ⟨value, hvalue⟩ := hvalues call hcall
        exact nomatch hvalue.symm.trans hresult
    · rintro ⟨call, hcall, failure, hresult⟩
      obtain ⟨values, rfl, hdone⟩ | ⟨failure, rfl, i, hfirst⟩ := hcases
      · obtain ⟨hresults, -⟩ := hsteady.ran_of_done hkept hdone
        have hmem : call.result ∈ values.map .ok := hresults ▸ List.mem_map_of_mem hcall
        obtain ⟨value, -, hvalue⟩ := List.mem_map.1 hmem
        exact nomatch hvalue.trans hresult
      · exact ⟨⟨i, failure, hfirst, rfl⟩, hover, hsteady.nobody_of_isOver hover⟩

/-- Five calls with two places, of which two fail one after the other: the failure of the first
comes out, the fourth call is cancelled when it was given a place, and the fifth while it waits. -/
theorem gathering_settles_two_failures :
    let calls : List (Call Nat Nat) :=
      [⟨2, .ok 7⟩, ⟨1, .error 1⟩, ⟨0, .error 2⟩, ⟨3, .ok 9⟩, ⟨0, .ok 5⟩]
    let ticks := List.replicate 5 .next ++ .wake 1 :: List.replicate 18 .next
    let now := (start 2 calls).after ticks
    start? 2 calls = .ok (start 2 calls) ∧ (start 2 calls).canRun ticks = true ∧
      now.outcome? = some (.error 1) ∧
      (∃ i failure, firstFailure? now.endings = some (i, failure) ∧
        (.error 1 : Except Nat (List Nat)) = .error failure) ∧
      (∀ w ∈ now.workers, w.isOver = true) ∧ now.line = [] ∧ runningAt now.log = 0 := by
  intro calls ticks now
  have hrun : (start 2 calls).canRun ticks = true := by decide +kernel
  have houtcome : now.outcome? = some (.error 1) := by decide +kernel
  have hstart : start? 2 calls = .ok (start 2 calls) := rfl
  have hfailing : ∃ call ∈ calls, ∃ failure, call.result = .error failure :=
    ⟨⟨1, .error 1⟩, by simp [calls], 1, rfl⟩
  exact ⟨hstart, hrun, houtcome,
    ((gathering_settles hstart hrun).2.2.2 _ houtcome).2 hfailing⟩

end Retrace.Loop

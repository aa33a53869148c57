import Mathlib.Data.List.Count
import Retrace.Proofs.Loop.Ledger

/-!
# Stages of a gathering

A gathering listens until it is told of the end of every call or of a failure. Then its outcome is
settled; a failure has the calls that are left cancelled, and the gathering waits until it is told
that all of them ended. At each stage its ledger tells how it stands: what was noted and what is
still in the queue makes up all ends.

* `Ledger.Candid`: the ends that were logged are those of the calls;
* `firstFailure?`, `Ledger.FailedWith`, `Ledger.Done`: the outcomes that a ledger allows;
* `Ledger.Staged`: what holds at each stage.

Main statements: `Ledger.Candid.turned` and `Ledger.Staged.turned`, the end of a call keeps what is
known of the ends and the stage.
-/

namespace Retrace.Loop

variable {ε α : Type} {l l' : Loop ε α} {i : Nat} {w : Worker ε α}

/-- The first call that failed, of calls in the order of their ends. -/
def firstFailure? (endings : List (Nat × Except ε α)) : Option (Nat × ε) :=
  endings.findSome? fun (i, result) =>
    match result with
    | .error failure => some (i, failure)
    | .ok _ => none

namespace Ledger

variable {b b' : Ledger ε α} {c : Call ε α} {result : Option (Except ε α)} {doomed : Bool}
  {values : List α} {failure : ε}

/-- The ends that were logged are those of the calls, and only doomed calls were cancelled. -/
structure Candid (b : Ledger ε α) : Prop where
  told : ∀ (i : Nat) (result : Except ε α), (i, result) ∈ b.endings ↔
    ∃ call doomed, b.calls[i]? = some ⟨call, some (some result), doomed⟩
  cut : ∀ (i : Nat) (call : Call ε α) (doomed : Bool),
    b.calls[i]? = some ⟨call, some none, doomed⟩ → doomed = true

/-- How many calls ended. -/
def ended (b : Ledger ε α) : Nat := b.calls.countP fun call => call.ending.isSome

/-- All calls ended. -/
def IsOver (b : Ledger ε α) : Prop := ∀ call ∈ b.calls, call.ending.isSome = true

/-- All calls ended with values. -/
def Done (b : Ledger ε α) (values : List α) : Prop :=
  b.calls.map Standing.ending = values.map fun value => some (some (.ok value))

/-- The first call that failed did so with this. -/
def FailedWith (b : Ledger ε α) (failure : ε) : Prop :=
  ∃ i, firstFailure? b.endings = some (i, failure)

/-- What holds at each stage of a gathering. -/
inductive Staged (b : Ledger ε α) : Prop
  /-- Some ends were noted, and the news of the others is in the queue. -/
  | listening (noted pending : List (Nat × Except ε α))
      (hgathering : b.gathering = .listening noted.length)
      (hendings : b.endings = noted ++ pending)
      (hnoted : ∀ e ∈ noted, ∃ value, e.2 = .ok value)
      (hpending : b.news.filterMap Handle.told? = pending.map Prod.fst)
      (hover : b.endings.length = b.ended)
      (hfew : noted.length < b.calls.length)
      (hspared : ∀ call ∈ b.calls, call.doomed = false)
      (hearly : b.news.countP Handle.isCleared = 0)
  | succeeded (values : List α) (hgathering : b.gathering = .settled (.ok values))
      (hdone : b.Done values) (hresume : .resume ∈ b.news)
  | failed (failure : ε) (hgathering : b.gathering = .settled (.error failure))
      (hfirst : b.FailedWith failure) (hresume : .resume ∈ b.news)
      (hearly : b.news.countP Handle.isCleared = 0)
  /-- All calls that are left were cancelled, and the news of the ends that were not heard of is in
  the queue. -/
  | clearing (failure : ε) (heard : Nat) (hgathering : b.gathering = .clearing failure heard)
      (hfirst : b.FailedWith failure)
      (hdoomed : ∀ call ∈ b.calls, call.ending = none → call.doomed = true)
      (hover : heard + b.news.countP Handle.isCleared = b.ended)
      (hfew : heard < b.calls.length)
  | cleared (failure : ε) (hgathering : b.gathering = .cleared failure)
      (hfirst : b.FailedWith failure) (hover : b.IsOver) (hresume : .resume ∈ b.news)
  | returned (values : List α) (hgathering : b.gathering = .ended (.ok values))
      (hdone : b.Done values)
  | raised (failure : ε) (hgathering : b.gathering = .ended (.error failure))
      (hfirst : b.FailedWith failure) (hover : b.IsOver)

theorem Done.isOver (h : b.Done values) : b.IsOver := by
  intro call hcall
  have hmem : call.ending ∈ b.calls.map Standing.ending := List.mem_map_of_mem hcall
  rw [Done] at h
  rw [h, List.mem_map] at hmem
  obtain ⟨value, -, heq⟩ := hmem
  rw [← heq, Option.isSome_some]

theorem IsOver.not_open (h : b.IsOver) : b.calls[i]? ≠ some ⟨c, none, doomed⟩ := fun hopen =>
  Bool.false_ne_true (h _ (List.mem_of_getElem? hopen))

theorem isOver_of_le (h : b.calls.length ≤ b.ended) : b.IsOver :=
  List.countP_eq_length.1 (Nat.le_antisymm List.countP_le_length h)

theorem FailedWith.append (h : b.FailedWith failure)
    {more : List (Nat × Except ε α)} (hendings : b'.endings = b.endings ++ more) :
    b'.FailedWith failure := by
  obtain ⟨i, hfirst⟩ := h
  refine ⟨i, ?_⟩
  rw [firstFailure?] at hfirst ⊢
  rw [hendings, List.findSome?_append, hfirst, Option.some_or]

/-! ### Ends of calls -/

theorem ended_finish (hopen : b.calls[i]? = some ⟨c, none, doomed⟩) :
    (b.finish i c result doomed).ended = b.ended + 1 := by
  obtain ⟨hi, hget⟩ := List.getElem?_eq_some_iff.1 hopen
  rw [ended, finish, List.countP_set hi, hget]
  simp [ended]

theorem getElem?_calls_finish (hopen : b.calls[i]? = some ⟨c, none, doomed⟩) (j : Nat) :
    (b.finish i c result doomed).calls[j]? =
      if i = j then some ⟨c, some result, doomed⟩ else b.calls[j]? := by
  rw [finish, List.getElem?_set]
  split
  · next h => rw [if_pos (List.getElem?_eq_some_iff.1 hopen).1]
  · rfl

theorem Candid.turned (h : b.Candid) (hturned : b.Turned i b') : b'.Candid := by
  cases hturned with
  | same => exact h
  | ended c result doomed hopen hcut =>
    have hnew : ∀ result', (i, result') ∉ b.endings := fun result' hmem => by
      obtain ⟨_, _, hcall⟩ := (h.told i result').1 hmem
      simp [hopen] at hcall
    constructor
    · intro j result'
      rw [getElem?_calls_finish hopen, finish, List.mem_append]
      by_cases hij : i = j
      · subst hij
        cases result <;> simp [hnew, eq_comm]
      · have hother : (j, result') ∉ (result.map (i, ·)).toList := by
          cases result <;> simp [Ne.symm hij]
        rw [if_neg hij, ← h.told, or_iff_left hother]
    · intro j call doomed' hcall
      rw [getElem?_calls_finish hopen] at hcall
      by_cases hij : i = j
      · rw [if_pos hij] at hcall
        obtain ⟨-, hresult, hdoomed⟩ : c = call ∧ result = none ∧ doomed = doomed' := by
          simpa using hcall
        exact hdoomed ▸ hcut hresult
      · rw [if_neg hij] at hcall
        exact h.cut j call doomed' hcall

/-- The calls stay what they are. -/
theorem Turned.map_call (hturned : b.Turned i b') :
    b'.calls.map Standing.call = b.calls.map Standing.call := by
  cases hturned with
  | same => rfl
  | ended c result doomed hopen hcut =>
    have hcall : (b.calls.map Standing.call)[i]? = some c := by
      rw [List.getElem?_map, hopen]
      rfl
    obtain ⟨hi, hget⟩ := List.getElem?_eq_some_iff.1 hcall
    rw [finish, List.map_set]
    change (b.calls.map Standing.call).set i c = b.calls.map Standing.call
    rw [← hget, List.set_getElem_self]

theorem mem_calls_finish (hopen : b.calls[i]? = some ⟨c, none, doomed⟩) {call : Standing ε α}
    (hcall : call ∈ (b.finish i c result doomed).calls) :
    call = ⟨c, some result, doomed⟩ ∨ call ∈ b.calls := by
  obtain ⟨j, hj⟩ := List.mem_iff_getElem?.1 hcall
  rw [getElem?_calls_finish hopen] at hj
  split at hj
  · exact .inl (Option.some.inj hj).symm
  · exact .inr (List.mem_of_getElem? hj)

theorem Staged.turned (h : b.Staged) (hturned : b.Turned i b') : b'.Staged := by
  cases hturned with
  | same => exact h
  | ended c result doomed hopen hcut =>
    have hlength : (b.finish i c result doomed).calls.length = b.calls.length := List.length_set
    cases h with
    | listening noted pending hgathering hendings hnoted hpending hover hfew hspared hearly =>
      -- nothing was cancelled yet, so the call ended with a result
      have hopen' : doomed = false := hspared _ (List.mem_of_getElem? hopen)
      cases result with
      | none => exact absurd (hcut rfl) (by rw [hopen']; exact Bool.false_ne_true)
      | some result =>
        refine .listening noted (pending ++ [(i, result)]) hgathering ?_ hnoted ?_ ?_
          (hlength ▸ hfew) (fun call hcall => ?_) ?_
        · rw [finish, hendings, List.append_assoc]
          rfl
        · rw [finish, hgathering, List.filterMap_append, hpending, List.map_append]
          rfl
        · rw [ended_finish hopen, ← hover]
          exact List.length_append
        · rcases mem_calls_finish hopen hcall with rfl | hbefore
          · exact hopen'
          · exact hspared call hbefore
        · rw [finish, hgathering, List.countP_append, hearly]
          rfl
    | succeeded values hgathering hdone hresume => exact absurd hopen hdone.isOver.not_open
    | failed failure hgathering hfirst hresume hearly =>
      refine .failed failure hgathering (hfirst.append rfl) (List.mem_append_left _ hresume) ?_
      rw [finish, hgathering, List.countP_append, hearly]
      rfl
    | clearing failure heard hgathering hfirst hdoomed hover hfew =>
      refine .clearing failure heard hgathering (hfirst.append rfl) (fun call hcall hnone => ?_) ?_
        (hlength ▸ hfew)
      · rcases mem_calls_finish hopen hcall with rfl | hbefore
        · cases hnone
        · exact hdoomed call hbefore hnone
      · rw [ended_finish hopen, ← hover, finish, hgathering, List.countP_append]
        rfl
    | cleared failure hgathering hfirst hover hresume => exact absurd hopen hover.not_open
    | returned values hgathering hdone => exact absurd hopen hdone.isOver.not_open
    | raised failure hgathering hfirst hover => exact absurd hopen hover.not_open

end Ledger

end Retrace.Loop

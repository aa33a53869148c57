import Mathlib.Data.List.Count
import Retrace.Proofs.Loop.Sound

/-!
# Turns on an event loop

No place stays free while a call waits for one, and every turn that is taken goes to a call that is
due for it. Both hold before and after everything that happens.

* `NoLost`: a place that is free while a call waits was given to a call in line, which lets the next
  one in;
* `Steady`: the invariant of loops between two things that happen.

Main statements: `Steady.turn`, a turn keeps the invariant, and `Steady.after`, so does a run.
-/

namespace Retrace.Loop

variable {ε α : Type} {limit : Nat} {hand : Option Nat} {l l' : Loop ε α} {i : Nat}
  {w w' : Worker ε α}

/-! ### No place is lost -/

/-- Whether a call stands in line and was given a place. -/
def isAdmitted (l : Loop ε α) (i : Nat) : Bool := l.workers[i]?.any Worker.isAdmitted

/-- While a call waits for a place, none is free, or one was given to a call in line: that call will
let the next one in. -/
def NoLost (l : Loop ε α) : Prop :=
  ∀ i, l.isWaiting i = true → l.free = 0 ∨ ∃ j, l.isAdmitted j = true

/-- The invariant of loops between two things that happen. -/
structure Steady (limit : Nat) (l : Loop ε α) : Prop where
  sound : Sound limit none l
  noLost : NoLost l

theorem isAdmitted_eq_true : l.isAdmitted i = true ↔
    ∃ call doomed, l.workers[i]? = some ⟨call, .admitted, doomed⟩ := by
  rw [isAdmitted, Option.any_eq_true]
  constructor
  · rintro ⟨⟨call, phase, doomed⟩, hw, hadmitted⟩
    cases phase <;> simp [Worker.isAdmitted] at hadmitted
    exact ⟨call, doomed, hw⟩
  · rintro ⟨call, doomed, hw⟩
    exact ⟨_, hw, rfl⟩

theorem Sound.mem_line_of_isWaiting (h : Sound limit hand l) (hwaiting : l.isWaiting i = true) :
    i ∈ l.line := by
  obtain ⟨call, hw⟩ := isWaiting_eq_true.1 hwaiting
  exact h.mem_line_of hw rfl

/-- What changes one call that waits no more than before, and is not robbed of a place that it was
given, loses no place. -/
theorem NoLost.update (h : NoLost l) (hw : l.workers[i]? = some w)
    (hworkers : l'.workers = l.workers.set i w') (hfree : l'.free = l.free)
    (hwaiting : w'.isWaiting = true → w.isWaiting = true)
    (hadmitted : w.isAdmitted = true → w'.isAdmitted = true) : NoLost l' := by
  have hlength : i < l.workers.length := (List.getElem?_eq_some_iff.1 hw).1
  have hself : l'.workers[i]? = some w' := by rw [hworkers, List.getElem?_set_self hlength]
  have hother : ∀ j, j ≠ i → l'.workers[j]? = l.workers[j]? := fun j hj => by
    rw [hworkers, List.getElem?_set_ne hj.symm]
  intro j hj
  have hbefore : l.isWaiting j = true := by
    by_cases hji : j = i
    · subst hji
      rw [isWaiting, hself, Option.any_some] at hj
      rw [isWaiting, hw, Option.any_some, hwaiting hj]
    · rwa [isWaiting, hother j hji] at hj
  rw [hfree]
  refine (h j hbefore).imp_right ?_
  rintro ⟨k, hk⟩
  refine ⟨k, ?_⟩
  by_cases hki : k = i
  · subst hki
    rw [isAdmitted, hw, Option.any_some] at hk
    rw [isAdmitted, hself, Option.any_some, hadmitted hk]
  · rwa [isAdmitted, hother k hki]

theorem Sound.admitNext (h : Sound limit hand l) (hfree : 0 < l.free) :
    Sound limit hand l.admitNext := by
  rw [Loop.admitNext]
  split
  · exact h
  · next i hfind =>
    obtain ⟨call, hw⟩ := isWaiting_eq_true.1 (List.find?_some hfind)
    exact h.admit hw hfree

theorem noLost_admitNext (h : Sound limit hand l) : NoLost l.admitNext := by
  rw [Loop.admitNext]
  split
  · next hnone =>
    intro i hi
    exact absurd hi (List.find?_eq_none.1 hnone i (h.mem_line_of_isWaiting hi))
  · next i hfind =>
    obtain ⟨call, hw⟩ := isWaiting_eq_true.1 (List.find?_some hfind)
    have hw' : (l.setFree (l.free - 1)).workers[i]? = some ⟨call, .waiting, false⟩ := hw
    exact fun _ _ => .inr ⟨i, isAdmitted_eq_true.2 ⟨call, false, getElem?_setPhase hw' _⟩⟩

theorem not_turn_mem_news (gathering : Gathering ε α) (i j : Nat) :
    .turn j ∉ gathering.news i := by
  cases gathering <;> simp [Gathering.news]

/-- The place of a call that ended is given to the next one. -/
theorem Steady.vacate {result : Option (Except ε α)}
    (h : Sound limit none ((l.setPhase i (.done result)).setFree (l.free + 1))) :
    Steady limit (l.vacate i result) where
  sound := (h.admitNext (Nat.succ_pos _)).push (not_turn_mem_news _ _)
  noLost := noLost_admitNext h

/-! ### Turns -/

section

variable {call : Call ε α}

theorem Steady.proceed {left : Nat} (h : Sound limit (some i) l) (hlost : NoLost l)
    (hw : l.workers[i]? = some ⟨call, .running left true, false⟩) :
    Steady limit (l.proceed i call left) := by
  cases left with
  | zero =>
    obtain ⟨-, pauses, hpauses, hmarks⟩ := h.story i _ hw
    refine Steady.vacate (h.leave hw rfl (fun _ => rfl) ⟨rfl, ?_⟩)
    rw [hmarks, ← hpauses]
    rfl
  | succ left =>
    exact ⟨h.pause hw, hlost.update hw (workers_setPhase hw _) rfl nofun nofun⟩

theorem isLocked_eq_false (hopen : l.isLocked = false) :
    0 < l.free ∧ ∀ j ∈ l.line, ∀ w, l.workers[j]? = some w → w.isRevoked = true := by
  rw [isLocked, Bool.or_eq_false_iff, decide_eq_false_iff_not, List.any_eq_false] at hopen
  refine ⟨Nat.pos_of_ne_zero hopen.1, fun j hj w hw => ?_⟩
  simpa [hw] using hopen.2 j hj

theorem isLocked_eq_true (hlocked : l.isLocked = true) :
    l.free = 0 ∨ ∃ j ∈ l.line, ∃ w, l.workers[j]? = some w ∧ w.isRevoked = false := by
  rw [isLocked, Bool.or_eq_true, decide_eq_true_eq, List.any_eq_true] at hlocked
  refine hlocked.imp_right fun ⟨j, hj, hany⟩ => ⟨j, hj, ?_⟩
  simpa [Option.any_eq_true] using hany

/-- Whoever comes to a free place overtakes nobody. -/
theorem Sound.not_isWaiting (h : Sound limit hand l) (hopen : l.isLocked = false) (j : Nat) :
    l.isWaiting j = false := by
  refine Bool.eq_false_iff.2 fun hwaiting => ?_
  obtain ⟨call, hw⟩ := isWaiting_eq_true.1 hwaiting
  have hrevoked := (isLocked_eq_false hopen).2 j (h.mem_line_of hw rfl) _ hw
  exact Bool.false_ne_true hrevoked

theorem Steady.wait (h : Sound limit (some i) l) (hlost : NoLost l)
    (hw : l.workers[i]? = some ⟨call, .fresh, false⟩) (hlocked : l.isLocked = true) :
    Steady limit ((l.setPhase i .waiting).setLine (l.line ++ [i])) := by
  refine ⟨h.wait hw, fun _ _ => ?_⟩
  rcases isLocked_eq_true hlocked with hfree | ⟨j, hj, v, hv, hrevoked⟩
  · exact .inl hfree
  -- whoever stands in line and was not cancelled waits or was given a place
  have hadmitted : l.free = 0 ∨ ∃ k, l.isAdmitted k = true := by
    obtain ⟨other, phase, doomed⟩ := v
    cases phase with
    | waiting =>
      obtain rfl : doomed = false := hrevoked
      exact hlost j (isWaiting_eq_true.2 ⟨other, hv⟩)
    | admitted => exact .inr ⟨j, isAdmitted_eq_true.2 ⟨other, doomed, hv⟩⟩
    | _ => exact absurd hj (h.not_mem_line hv rfl)
  refine hadmitted.imp_right ?_
  rintro ⟨k, hk⟩
  obtain ⟨other, doomed, hother⟩ := isAdmitted_eq_true.1 hk
  refine ⟨k, isAdmitted_eq_true.2 ⟨other, doomed, ?_⟩⟩
  have hne : i ≠ k := fun heq => by simp [← heq, hw] at hother
  rw [setLine, workers_setPhase hw, List.getElem?_set_ne hne, hother]

theorem Steady.enter_free (h : Sound limit (some i) l)
    (hw : l.workers[i]? = some ⟨call, .fresh, false⟩) (hopen : l.isLocked = false) :
    Steady limit (((l.setFree (l.free - 1)).enter i call).proceed i call call.yields) := by
  have hnobody : NoLost (l.setFree (l.free - 1)) := fun j hj =>
    absurd hj (Bool.eq_false_iff.1 (h.not_isWaiting hopen j))
  have hseated := h.enter_free hw (isLocked_eq_false hopen).1
  exact Steady.proceed hseated (hnobody.update hw (workers_setPhase hw _) rfl nofun nofun)
    (getElem?_setPhase hw _)

theorem Steady.turn (h : Sound limit (some i) l) (hlost : NoLost l) (hturn : l.Turn i l') :
    Steady limit l' := by
  cases hturn with
  | idle hidle =>
    -- whoever has a turn is due for it, so that there is no such call
    have hnobody : l.workers[i]? = none := by
      by_contra hne
      obtain ⟨w, hw⟩ := Option.ne_none_iff_exists'.1 hne
      have hdue := (h.due i w hw).trans (hidle w hw)
      rw [held_self] at hdue
      exact Nat.succ_ne_zero _ hdue
    refine ⟨{ h with due := fun j v hv => ?_ }, hlost⟩
    have hne : j ≠ i := by
      rintro rfl
      exact nomatch hnobody.symm.trans hv
    rw [add_held_none _ hne]
    exact h.due j v hv
  | wait hw hlocked => exact Steady.wait h hlost hw hlocked
  | enter hw hopen => exact Steady.enter_free h hw hopen
  | seat hw hfull =>
    exact Steady.proceed (h.enter_admitted hw) (fun _ _ => .inl hfull) (getElem?_setPhase hw _)
  | usher hw hfree =>
    have hseated := h.enter_admitted hw
    exact Steady.proceed (hseated.admitNext hfree) (noLost_admitNext hseated)
      (getElem?_admitNext (getElem?_setPhase hw _) rfl)
  | proceed hw => exact Steady.proceed h hlost hw
  | shun hw =>
    have hcancel := h.cancel hw rfl rfl fun _ => id
    rw [List.erase_of_not_mem (h.not_mem_line hw rfl)] at hcancel
    exact ⟨hcancel.push (not_turn_mem_news _ _),
      hlost.update hw (workers_setPhase hw _) rfl nofun nofun⟩
  | revoke hw =>
    have hcancel := h.cancel hw rfl rfl fun _ => id
    exact ⟨hcancel.push (not_turn_mem_news _ _),
      hlost.update hw (workers_setPhase hw _) rfl nofun nofun⟩
  | unseat hw => exact Steady.vacate (h.cancel hw rfl rfl fun _ => id)
  | cut hw =>
    obtain ⟨-, pauses, hpauses, hmarks⟩ := h.story i _ hw
    refine Steady.vacate (h.leave hw rfl (fun _ => rfl)
      ⟨rfl, .inr ⟨pauses, Nat.le.intro hpauses, ?_⟩⟩)
    rw [hmarks]
    rfl

end

/-! ### Runs -/

/-- The call whose turn is taken out of the queue. -/
def Handle.caller : Handle → Option Nat
  | .turn i => some i
  | _ => none

theorem Sound.pop {first : Handle} {rest : List Handle} (h : Sound limit none l)
    (hqueue : l.queue = first :: rest) : Sound limit first.caller { l with queue := rest } := by
  refine { h with due := fun j v hv => ?_ }
  have hdue := h.due j v hv
  rw [hqueue, held_none, List.count_cons] at hdue
  rw [← hdue]
  cases first with
  | turn i => by_cases hij : i = j <;> simp [Handle.caller, held, hij]
  | _ => rfl

theorem Steady.push (h : Steady limit l) {handles : List Handle}
    (hhandles : ∀ j, .turn j ∉ handles) : Steady limit (l.push handles) :=
  ⟨h.sound.push hhandles, h.noLost⟩

theorem Steady.setGathering (h : Steady limit l) (gathering : Gathering ε α) :
    Steady limit (l.setGathering gathering) :=
  ⟨{ h.sound with }, h.noLost⟩

theorem Steady.doom (h : Steady limit l) (i : Nat) : Steady limit (l.doom i) := by
  refine ⟨h.sound.doom i, ?_⟩
  cases hw : l.workers[i]? with
  | none => exact (doom_of_none hw).symm ▸ h.noLost
  | some w => exact h.noLost.update hw (workers_doom hw) rfl w.isWaiting_of_doom w.isAdmitted_doom

theorem Steady.clear (h : Steady limit l) (failure : ε) : Steady limit (l.clear failure) := by
  have hdoomed : Steady limit ((List.range l.workers.length).foldl Loop.doom l) :=
    List.foldlRecOn _ _ h fun _ hbefore i _ => hbefore.doom i
  exact (hdoomed.setGathering _).push (by simp)

theorem Steady.news (h : Steady limit l) (hnews : l.News l') : Steady limit l' := by
  cases hnews with
  | idle => exact h
  | stay gathering => exact h.setGathering gathering
  | goOn gathering => exact (h.setGathering gathering).push (by simp)
  | clear failure => exact h.clear failure

theorem Steady.wake (h : Steady limit l) (i : Nat) : Steady limit (l.wake i) := by
  rw [Loop.wake]
  split
  · next hw =>
    exact ⟨h.sound.awaken hw, h.noLost.update hw (workers_setPhase hw _) rfl nofun nofun⟩
  · exact h

theorem Steady.next (h : Steady limit l) : Steady limit l.next := by
  rw [Loop.next]
  split
  · exact h
  · next first rest hqueue =>
    have hpop := h.sound.pop hqueue
    have hlost : NoLost { l with queue := rest } := h.noLost
    cases first with
    | turn i => exact Steady.turn hpop hlost (turn_spec _ i)
    | _ => exact Steady.news ⟨hpop, hlost⟩ (news_spec rfl _)

theorem Steady.step (h : Steady limit l) (tick : Tick) : Steady limit (l.step tick) := by
  cases tick with
  | next => exact h.next
  | wake i => exact h.wake i

theorem Steady.after (h : Steady limit l) (ticks : List Tick) : Steady limit (l.after ticks) := by
  induction ticks generalizing l with
  | nil => exact h
  | cons tick rest ih => exact ih (h.step tick)

theorem getElem?_workers_start {calls : List (Call ε α)} :
    (start limit calls).workers[i]? = some w ↔
      ∃ call, calls[i]? = some call ∧ w = ⟨call, .fresh, false⟩ := by
  rw [start, List.getElem?_map, Option.map_eq_some_iff]
  exact exists_congr fun call => and_congr_right fun _ => eq_comm

theorem weigh_start {f : Worker ε α → Nat} (hf : ∀ call, f ⟨call, .fresh, false⟩ = 0)
    (limit : Nat) (calls : List (Call ε α)) : (start limit calls).weigh f = 0 := by
  refine total_eq_zero fun w hw => ?_
  obtain ⟨call, -, rfl⟩ := List.mem_map.1 hw
  exact hf call

theorem Steady.start (limit : Nat) (calls : List (Call ε α)) :
    Steady limit (start limit calls) := by
  refine ⟨⟨?_, fun i w hw => ?_, List.nodup_nil, fun i => ?_, ?_, ?_, fun i w hw => ?_⟩, ?_⟩
  · rw [weigh_start fun _ => rfl]
    rfl
  · obtain ⟨call, hcall, rfl⟩ := getElem?_workers_start.1 hw
    have hi : i < calls.length := (List.getElem?_eq_some_iff.1 hcall).1
    have hnodup : ((List.range calls.length).map Handle.turn).Nodup :=
      List.nodup_range.map fun _ _ => Handle.turn.inj
    have hmem : Handle.turn i ∈ (List.range calls.length).map Handle.turn :=
      List.mem_map_of_mem (List.mem_range.2 hi)
    exact List.count_eq_one_of_mem hnodup hmem
  · refine iff_of_false List.not_mem_nil fun hany => ?_
    obtain ⟨w, hw, hline⟩ := (Option.any_eq_true _ _).1 hany
    obtain ⟨call, -, rfl⟩ := getElem?_workers_start.1 hw
    exact Bool.false_ne_true hline
  · rw [weigh_start fun _ => rfl]
    rfl
  · rintro past hpast
    rw [List.prefix_nil.1 hpast]
    exact Nat.zero_le _
  · obtain ⟨call, -, rfl⟩ := getElem?_workers_start.1 hw
    rfl
  · intro i hi
    obtain ⟨call, hw⟩ := isWaiting_eq_true.1 hi
    obtain ⟨_, -, heq⟩ := getElem?_workers_start.1 hw
    cases heq

end Retrace.Loop

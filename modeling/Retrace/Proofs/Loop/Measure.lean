import Retrace.Proofs.Loop.Steady

/-!
# Runs of an event loop are finite

What can still happen to a loop is counted by `size`: the turns that its calls still need, what is
in its queue, and the stages that the gathering has ahead. Everything that happens makes it smaller.

* `canHappen`, `canRun`: the things that can happen to a loop, and the runs of them;
* `size_turn_le`, `size_hear_le`, `size_hearCleared_le`, `size_resume_le`: what was taken out of the
  queue and is done does not add to the count.

Main statements: `size_step_lt`, and `length_add_size_after_le` for runs.
-/

namespace Retrace.Loop

variable {ε α : Type} {l : Loop ε α} {i : Nat} {w : Worker ε α}

/-- Whether something can happen. -/
def canHappen (l : Loop ε α) : Tick → Bool
  | .next => !l.queue.isEmpty
  | .wake i => l.workers[i]?.any Worker.isAsleep

/-- Whether things can happen one after another. -/
def canRun (l : Loop ε α) : List Tick → Bool
  | [] => true
  | tick :: rest => l.canHappen tick && (l.step tick).canRun rest

/-! ### What changes the count -/

@[simp] theorem size_setFree (l : Loop ε α) (free : Nat) : (l.setFree free).size = l.size := rfl

@[simp] theorem size_setLine (l : Loop ε α) (line : List Nat) : (l.setLine line).size = l.size :=
  rfl

@[simp] theorem size_note (l : Loop ε α) (mark : Mark ε α) : (l.note mark).size = l.size := rfl

theorem size_push (l : Loop ε α) (handles : List Handle) :
    (l.push handles).size = l.size + handles.length := by
  simp only [size, weigh, push, List.length_append]
  omega

theorem size_setPhase (hw : l.workers[i]? = some w) (phase : Phase ε α) :
    (l.setPhase i phase).size + w.toDo =
      l.size + Worker.toDo ⟨w.call, phase, w.doomed⟩ := by
  have hsum := total_set Worker.toDo hw ⟨w.call, phase, w.doomed⟩
  have hlength : (l.setPhase i phase).workers.length = l.workers.length := by
    rw [workers_setPhase hw, List.length_set]
  rw [size, size, weigh, weigh, hlength, workers_setPhase hw]
  simp only [setPhase]
  omega

/-- A gathering that has less ahead of it makes up for what is put into the queue. -/
theorem size_setGathering_le {gathering : Gathering ε α} {more : Nat}
    (h : gathering.toDo l.workers.length + more ≤ l.gathering.toDo l.workers.length) :
    (l.setGathering gathering).size + more ≤ l.size := by
  simp only [size, weigh, setGathering]
  omega

theorem size_setGathering_le_self {gathering : Gathering ε α}
    (h : gathering.toDo l.workers.length ≤ l.gathering.toDo l.workers.length) :
    (l.setGathering gathering).size ≤ l.size :=
  @size_setGathering_le ε α l gathering 0 h

theorem length_news_le (gathering : Gathering ε α) (i : Nat) : (gathering.news i).length ≤ 2 := by
  cases gathering <;> simp [Gathering.news]

/-- A call to which a place is given has a turn for one that it waits for. -/
@[simp] theorem size_admitNext (l : Loop ε α) : l.admitNext.size = l.size := by
  rw [admitNext]
  split
  · rfl
  · next i hfind =>
    obtain ⟨call, hw⟩ := isWaiting_eq_true.1 (List.find?_some hfind)
    have hw' : (l.setFree (l.free - 1)).workers[i]? = some ⟨call, .waiting, false⟩ := hw
    have hsize := size_setPhase hw' .admitted
    simp only [Worker.toDo, size_setFree, Bool.false_eq_true, ↓reduceIte] at hsize
    rw [size_push, List.length_singleton]
    omega

/-! ### Turns -/

theorem size_retire_le (hw : l.workers[i]? = some w) : (l.retire i).size + w.toDo ≤ l.size + 2 := by
  have hsize := size_setPhase hw (.done none)
  have hnews := length_news_le l.gathering i
  rw [retire, size_push]
  simp only [Worker.toDo] at hsize ⊢
  omega

theorem size_vacate_le (hw : l.workers[i]? = some w) (result : Option (Except ε α)) :
    (l.vacate i result).size + w.toDo ≤ l.size + 2 := by
  have hsize := size_setPhase hw (.done result)
  have hnews := length_news_le l.gathering i
  rw [vacate, size_push, release, size_admitNext, size_setFree]
  simp only [Worker.toDo] at hsize ⊢
  omega

theorem size_proceed_le {call : Call ε α} {left : Nat}
    (hw : l.workers[i]? = some ⟨call, .running left true, false⟩) :
    (l.proceed i call left).size ≤ l.size := by
  cases left with
  | zero =>
    have hsize := size_vacate_le
      (show (l.note (.ended i call.result)).workers[i]? = _ from hw) (some call.result)
    rw [size_note] at hsize
    exact Nat.le_of_add_le_add_right hsize
  | succ left =>
    have hsize := size_setPhase hw (.running left false)
    simp only [Worker.toDo, Bool.false_eq_true, ↓reduceIte] at hsize
    rw [proceed, size_note]
    omega

theorem size_enter (hw : l.workers[i]? = some w) (call : Call ε α) :
    (l.enter i call).size + w.toDo = l.size + (2 * call.yields + 2) :=
  size_setPhase hw (.running call.yields true)

theorem size_turn_le {l' : Loop ε α} (hturn : l.Turn i l') : l'.size ≤ l.size := by
  cases hturn with
  | idle => exact le_rfl
  | wait hw => exact Nat.le_of_add_le_add_right (size_setPhase hw .waiting).le
  | @enter call hw =>
    have hw' : (l.setFree (l.free - 1)).workers[i]? = some ⟨call, .fresh, false⟩ := hw
    have hsize := size_enter hw' call
    simp only [Worker.toDo, size_setFree] at hsize
    exact (size_proceed_le (getElem?_enter hw' call)).trans (by omega)
  | @seat call hw =>
    have hw' : (l.setLine (l.line.erase i)).workers[i]? = some ⟨call, .admitted, false⟩ := hw
    exact (size_proceed_le (getElem?_enter hw' call)).trans
      (Nat.le_of_add_le_add_right (size_enter hw' call).le)
  | @usher call hw =>
    have hw' : (l.setLine (l.line.erase i)).workers[i]? = some ⟨call, .admitted, false⟩ := hw
    refine (size_proceed_le (getElem?_admitNext (getElem?_enter hw' call) rfl)).trans ?_
    rw [size_admitNext]
    exact Nat.le_of_add_le_add_right (size_enter hw' call).le
  | proceed hw => exact size_proceed_le hw
  | shun hw =>
    have hsize := size_retire_le hw
    simp only [Worker.toDo] at hsize
    omega
  | @revoke call hw =>
    have hw' : (l.setLine (l.line.erase i)).workers[i]? = some ⟨call, .waiting, true⟩ := hw
    have hsize := size_retire_le hw'
    simp only [Worker.toDo, size_setLine, ↓reduceIte] at hsize
    omega
  | @unseat call hw =>
    have hw' : (l.setLine (l.line.erase i)).workers[i]? = some ⟨call, .admitted, true⟩ := hw
    have hsize := size_vacate_le hw' none
    simp only [Worker.toDo, size_setLine] at hsize
    omega
  | @cut call left hw =>
    have hw' : (l.note (.cut i)).workers[i]? = some ⟨call, .running left true, true⟩ := hw
    have hsize := size_vacate_le hw' none
    simp only [Worker.toDo, size_note, ↓reduceIte] at hsize
    omega

/-! ### News -/

theorem size_hear_le (l : Loop ε α) (i : Nat) : (l.hear i).size ≤ l.size := by
  rw [hear]
  split
  · next hgathering _ =>
    rw [size_push]
    exact size_setGathering_le (by rw [hgathering]; exact le_rfl)
  · next hgathering _ =>
    split
    · rw [size_push]
      exact size_setGathering_le (by rw [hgathering]; exact le_rfl)
    · exact size_setGathering_le_self (by rw [hgathering]; exact le_rfl)
  · exact le_rfl

theorem size_hearCleared_le (l : Loop ε α) : l.hearCleared.size ≤ l.size := by
  rw [hearCleared]
  split
  · next hgathering =>
    split
    · rw [size_push]
      exact size_setGathering_le (by rw [hgathering]; exact le_rfl)
    · exact size_setGathering_le_self (by rw [hgathering]; exact le_rfl)
  · exact le_rfl

theorem Worker.toDo_doom (w : Worker ε α) :
    w.doom.toDo + (if w.isAtRest then 1 else 0) ≤ w.toDo := by
  rcases w with ⟨call, phase, doomed⟩
  cases phase with
  | waiting => cases doomed <;> simp [doom, toDo, isAtRest, isWaiting, isAsleep]
  | running left awake => cases awake <;> simp [doom, toDo, isAtRest, isWaiting, isAsleep]
  | _ => exact le_rfl

theorem length_workers_doom (l : Loop ε α) (i : Nat) :
    (l.doom i).workers.length = l.workers.length :=
  List.length_modify ..

/-- The turn in which a call is cancelled is one that it had ahead of it. -/
theorem size_doom_le (l : Loop ε α) (i : Nat) : (l.doom i).size ≤ l.size := by
  cases hw : l.workers[i]? with
  | none => rw [doom_of_none hw]
  | some w =>
    have hsum := total_set Worker.toDo hw w.doom
    have htodo := w.toDo_doom
    have hqueue : (l.doom i).queue.length = l.queue.length + if w.isAtRest then 1 else 0 := by
      cases hrest : w.isAtRest <;> simp [doom, Loop.push, hw, hrest]
    rw [size, size, weigh, weigh, hqueue, length_workers_doom, workers_doom hw]
    change _ + _ + l.gathering.toDo _ ≤ _
    omega

theorem size_foldl_doom_le (l : Loop ε α) (is : List Nat) :
    (is.foldl doom l).workers.length = l.workers.length ∧
      (is.foldl doom l).gathering = l.gathering ∧ (is.foldl doom l).size ≤ l.size := by
  induction is generalizing l with
  | nil => exact ⟨rfl, rfl, le_rfl⟩
  | cons i rest ih =>
    obtain ⟨hlength, hgathering, hsize⟩ := ih (l.doom i)
    exact ⟨hlength.trans (length_workers_doom l i), hgathering,
      hsize.trans (size_doom_le l i)⟩

theorem size_clear_le (failure : ε)
    (hgathering : l.gathering.toDo l.workers.length = l.workers.length + 1) :
    (l.clear failure).size ≤ l.size := by
  obtain ⟨hlength, hsame, hsize⟩ := size_foldl_doom_le l (List.range l.workers.length)
  rw [clear, size_push, List.length_map]
  refine (Nat.add_le_add_left ((List.length_filter_le _ _).trans (List.length_range ..).le) _).trans
    ((size_setGathering_le ?_).trans hsize)
  rw [hsame, hlength, hgathering, Nat.add_comm]
  exact le_rfl

theorem size_resume_le (l : Loop ε α) : l.resume.size ≤ l.size := by
  rw [resume]
  split
  · next hgathering =>
    exact size_setGathering_le_self (by rw [hgathering]; exact Nat.zero_le _)
  · next hgathering => exact size_clear_le _ (by rw [hgathering]; rfl)
  · next hgathering =>
    exact size_setGathering_le_self (by rw [hgathering]; exact Nat.zero_le _)
  · exact le_rfl

/-! ### Runs -/

theorem size_handle_le (l : Loop ε α) (handle : Handle) : (l.handle handle).size ≤ l.size := by
  cases handle with
  | turn i => exact size_turn_le (turn_spec l i)
  | told i => exact size_hear_le l i
  | cleared i => exact size_hearCleared_le l
  | resume => exact size_resume_le l

/-- Less can still happen after something happened. -/
theorem size_step_lt {tick : Tick} (h : l.canHappen tick = true) : (l.step tick).size < l.size := by
  cases tick with
  | next =>
    rw [step, next]
    split
    · next hqueue => simp [canHappen, hqueue] at h
    · next first rest hqueue =>
      refine (size_handle_le _ first).trans_lt ?_
      simp only [size, weigh, hqueue, List.length_cons]
      omega
  | wake i =>
    obtain ⟨⟨call, phase, doomed⟩, hw, hasleep⟩ := (Option.any_eq_true _ _).1 h
    cases phase with
    | running left awake =>
      cases awake with
      | true => cases hasleep
      | false =>
        have hsize := size_setPhase hw (.running left true)
        simp only [Worker.toDo, Bool.false_eq_true, ↓reduceIte] at hsize
        rw [step, wake, hw]
        dsimp only
        rw [size_push, List.length_singleton]
        omega
    | _ => cases hasleep

theorem length_add_size_after_le {ticks : List Tick} (h : l.canRun ticks = true) :
    ticks.length + (l.after ticks).size ≤ l.size := by
  induction ticks generalizing l with
  | nil => exact (Nat.zero_add _).le
  | cons tick rest ih =>
    rw [canRun, Bool.and_eq_true] at h
    have hstep := size_step_lt h.1
    have hrest : rest.length + (l.after (tick :: rest)).size ≤ (l.step tick).size := ih h.2
    rw [List.length_cons]
    omega

end Retrace.Loop

import Mathlib.Data.List.Infix
import Mathlib.Data.List.Nodup
import Retrace.Proofs.Loop.Turn

/-!
# Places on an event loop

Every place is free or taken by one call, each call has as many turns in the queue as are due to it,
and the log tells of each call what its phase says. While a turn is taken out of the queue it is in
the hand of its call.

* `Worker.seats`, `Worker.runs`: the places that a call has taken, and whether it runs;
* `Worker.Story`: what the log has to tell of a call;
* `runningAt`: how many calls run after marks of the log;
* `Sound`: the invariant of loops.

Main statements: `Sound.update`, what changes one call has to be looked at for this call only, and
with it a statement for each way in which a call goes on, from `Sound.wait` to `Sound.doom`.
-/

namespace Retrace.Loop

variable {ε α : Type} {limit : Nat} {hand hand' : Option Nat} {l l' : Loop ε α} {i : Nat}
  {w w' : Worker ε α}

/-! ### Calls -/

namespace Worker

/-- The places that a call has taken. -/
def seats (w : Worker ε α) : Nat :=
  match w.phase with
  | .admitted => 1
  | .running _ _ => 1
  | _ => 0

/-- Whether a call runs, as a number. -/
def runs (w : Worker ε α) : Nat :=
  match w.phase with
  | .running _ _ => 1
  | _ => 0

/-- Whether a call stands in line. -/
def isInLine (w : Worker ε α) : Bool :=
  match w.phase with
  | .waiting => true
  | .admitted => true
  | _ => false

/-- Whether a call stands in line and was given a place. -/
def isAdmitted (w : Worker ε α) : Bool :=
  match w.phase with
  | .admitted => true
  | _ => false

/-- Whether marks tell what a call did so far. -/
def Story (w : Worker ε α) (i : Nat) (marks : List (Mark ε α)) : Prop :=
  match w.phase with
  | .running left awake => (w.doomed = true → awake = true) ∧
      ∃ pauses, pauses + left = w.call.yields ∧
        marks = .entered i :: List.replicate pauses (.paused i)
  | .done (some result) => result = w.call.result ∧
      marks = .entered i :: (List.replicate w.call.yields (.paused i) ++ [.ended i result])
  | .done none => w.doomed = true ∧ (marks = [] ∨ ∃ pauses ≤ w.call.yields,
      marks = .entered i :: (List.replicate pauses (.paused i) ++ [.cut i]))
  | _ => marks = []

theorem runs_le_seats (w : Worker ε α) : w.runs ≤ w.seats := by
  rcases w with ⟨call, phase, doomed⟩
  cases phase <;> simp [runs, seats]

@[simp] theorem seats_doom (w : Worker ε α) : w.doom.seats = w.seats := by
  rcases w with ⟨call, phase, doomed⟩
  cases phase <;> rfl

@[simp] theorem runs_doom (w : Worker ε α) : w.doom.runs = w.runs := by
  rcases w with ⟨call, phase, doomed⟩
  cases phase <;> rfl

@[simp] theorem isInLine_doom (w : Worker ε α) : w.doom.isInLine = w.isInLine := by
  rcases w with ⟨call, phase, doomed⟩
  cases phase <;> rfl

/-- A call that is cancelled has a turn for that, unless it ended. -/
theorem due_doom (w : Worker ε α) : w.doom.due = w.due + if w.isAtRest then 1 else 0 := by
  rcases w with ⟨call, phase, doomed⟩
  cases phase with
  | waiting => cases doomed <;> rfl
  | running left awake => cases awake <;> rfl
  | _ => rfl

theorem isWaiting_of_doom (w : Worker ε α) (h : w.doom.isWaiting = true) : w.isWaiting = true := by
  rcases w with ⟨call, phase, doomed⟩
  cases phase <;> exact absurd h Bool.false_ne_true

theorem isAdmitted_doom (w : Worker ε α) (h : w.isAdmitted = true) : w.doom.isAdmitted = true := by
  rcases w with ⟨call, phase, doomed⟩
  cases phase <;> exact h

theorem Story.doom {marks : List (Mark ε α)} (h : w.Story i marks) : w.doom.Story i marks := by
  rcases w with ⟨call, phase, doomed⟩
  cases phase with
  | running left awake => exact ⟨fun _ => rfl, h.2⟩
  | _ => exact h

end Worker

/-- The call that a mark is about. -/
def Mark.call : Mark ε α → Nat
  | .entered i => i
  | .paused i => i
  | .ended i _ => i
  | .cut i => i

/-- How many calls run after marks. -/
def runningAt (marks : List (Mark ε α)) : Nat := marks.foldl Mark.running 0

/-- What the log tells of a call. -/
def marksOf (l : Loop ε α) (i : Nat) : List (Mark ε α) := l.log.filter fun mark => mark.call = i

theorem total_set (f : Worker ε α → Nat) {ws : List (Worker ε α)} (h : ws[i]? = some w)
    (w' : Worker ε α) : total f (ws.set i w') + f w = total f ws + f w' := by
  induction ws generalizing i with
  | nil => cases h
  | cons head rest ih =>
    cases i with
    | zero =>
      cases h
      simp only [List.set_cons_zero, total]
      omega
    | succ i =>
      have hrest := ih h
      simp only [List.set_cons_succ, total]
      omega

theorem total_le_total {f g : Worker ε α → Nat} (h : ∀ w, f w ≤ g w) (ws : List (Worker ε α)) :
    total f ws ≤ total g ws := by
  induction ws with
  | nil => exact le_rfl
  | cons w rest ih => exact Nat.add_le_add (h w) ih

theorem total_lt_total {f g : Worker ε α → Nat} (h : ∀ w, f w ≤ g w) {ws : List (Worker ε α)}
    (hmem : w ∈ ws) (hlt : f w < g w) : total f ws < total g ws := by
  induction hmem with
  | head rest => exact Nat.add_lt_add_of_lt_of_le hlt (total_le_total h rest)
  | tail head _ ih => exact Nat.add_lt_add_of_le_of_lt (h head) ih

theorem le_total (f : Worker ε α → Nat) {ws : List (Worker ε α)} (h : w ∈ ws) :
    f w ≤ total f ws := by
  induction h with
  | head rest => exact Nat.le_add_right _ _
  | tail head _ ih => exact ih.trans (Nat.le_add_left _ _)

theorem total_eq_zero {f : Worker ε α → Nat} {ws : List (Worker ε α)} (h : ∀ w ∈ ws, f w = 0) :
    total f ws = 0 := by
  induction ws with
  | nil => rfl
  | cons w rest ih =>
    rw [total, h w List.mem_cons_self, ih fun v hv => h v (List.mem_cons_of_mem w hv)]

/-! ### The invariant -/

/-- One for the call whose turn is in hand. -/
def held (hand : Option Nat) (i : Nat) : Nat := if hand = some i then 1 else 0

@[simp] theorem held_none (i : Nat) : held none i = 0 := rfl

@[simp] theorem held_self (i : Nat) : held (some i) i = 1 := if_pos rfl

theorem held_of_ne {j : Nat} (h : j ≠ i) : held (some i) j = 0 :=
  if_neg fun heq => h (Option.some.inj heq).symm

/-- The invariant of loops. -/
structure Sound (limit : Nat) (hand : Option Nat) (l : Loop ε α) : Prop where
  /-- Every place is free or taken. -/
  places : l.free + l.weigh Worker.seats = limit
  /-- The turns of a call that are due are in the queue or in hand. -/
  due : ∀ (i : Nat) (w : Worker ε α), l.workers[i]? = some w →
    l.queue.count (.turn i) + held hand i = w.due
  nodup : l.line.Nodup
  mem_line : ∀ i, i ∈ l.line ↔ l.workers[i]?.any Worker.isInLine = true
  running : runningAt l.log = l.weigh Worker.runs
  bounded : ∀ past, past <+: l.log → runningAt past ≤ limit
  story : ∀ (i : Nat) (w : Worker ε α), l.workers[i]? = some w → w.Story i (l.marksOf i)

/-- What changes one call and adds at most one mark of it to the log keeps the invariant, if it does
so for this call. -/
theorem Sound.update (h : Sound limit hand l) (hw : l.workers[i]? = some w)
    {marks : List (Mark ε α)} (hworkers : l'.workers = l.workers.set i w')
    (hplaces : l'.free + w'.seats = l.free + w.seats)
    (hothers : ∀ j, j ≠ i → l'.queue.count (.turn j) + held hand' j =
      l.queue.count (.turn j) + held hand j)
    (hdue : l'.queue.count (.turn i) + held hand' i = w'.due)
    (hnodup : l'.line.Nodup) (hline : ∀ j, j ≠ i → (j ∈ l'.line ↔ j ∈ l.line))
    (hmem : i ∈ l'.line ↔ w'.isInLine = true)
    (hlog : l'.log = l.log ++ marks) (hone : marks.length ≤ 1)
    (hcall : ∀ mark ∈ marks, mark.call = i)
    (hruns : ∀ n, w.runs ≤ n → marks.foldl Mark.running n + w.runs = n + w'.runs)
    (hstory : w'.Story i (l.marksOf i ++ marks)) : Sound limit hand' l' := by
  have hlength : i < l.workers.length := (List.getElem?_eq_some_iff.1 hw).1
  have hself : l'.workers[i]? = some w' := by rw [hworkers, List.getElem?_set_self hlength]
  have hother : ∀ j, j ≠ i → l'.workers[j]? = l.workers[j]? := fun j hj => by
    rw [hworkers, List.getElem?_set_ne hj.symm]
  have hseats : l'.weigh Worker.seats + w.seats = l.weigh Worker.seats + w'.seats := by
    rw [weigh, hworkers]
    exact total_set Worker.seats hw w'
  have hweighs : l'.weigh Worker.runs + w.runs = l.weigh Worker.runs + w'.runs := by
    rw [weigh, hworkers]
    exact total_set Worker.runs hw w'
  have hplaces' : l'.free + l'.weigh Worker.seats = limit := by
    have hbefore := h.places
    omega
  have hrunning : runningAt l'.log = l'.weigh Worker.runs := by
    have hmarks := hruns (l.weigh Worker.runs) (le_total Worker.runs (List.mem_of_getElem? hw))
    rw [runningAt, hlog, List.foldl_append, ← runningAt, h.running]
    omega
  refine ⟨hplaces', ?_, hnodup, ?_, hrunning, ?_, ?_⟩
  · intro j v hv
    by_cases hj : j = i
    · subst hj
      rw [hself, Option.some.injEq] at hv
      rw [← hv, hdue]
    · rw [hothers j hj]
      exact h.due j v (hother j hj ▸ hv)
  · intro j
    by_cases hj : j = i
    · subst hj
      rw [hmem, hself, Option.any_some]
    · rw [hline j hj, h.mem_line, hother j hj]
  · -- the log is at most one mark longer, and with this mark it tells how many run now
    intro past hpast
    rw [hlog] at hpast
    rcases marks with _ | ⟨mark, _ | ⟨_, _⟩⟩
    · exact h.bounded past (by rwa [List.append_nil] at hpast)
    · rcases List.prefix_concat_iff.1 hpast with rfl | hpast
      · rw [← hlog, hrunning]
        have hle : l'.weigh Worker.runs ≤ l'.weigh Worker.seats :=
          total_le_total Worker.runs_le_seats _
        omega
      · exact h.bounded past hpast
    · simp at hone
  · intro j v hv
    rw [marksOf, hlog, List.filter_append]
    by_cases hj : j = i
    · subst hj
      rw [hself, Option.some.injEq] at hv
      subst hv
      rwa [List.filter_eq_self.2 fun mark hmark => decide_eq_true (hcall mark hmark)]
    · have hnone : marks.filter (fun mark => mark.call = j) = [] := by
        rw [List.filter_eq_nil_iff]
        intro mark hmark
        simpa [hcall mark hmark] using Ne.symm hj
      rw [hnone, List.append_nil]
      exact h.story j v (hother j hj ▸ hv)

/-- The same for what adds no mark. -/
theorem Sound.update_unmarked (h : Sound limit hand l) (hw : l.workers[i]? = some w)
    (hworkers : l'.workers = l.workers.set i w') (hplaces : l'.free + w'.seats = l.free + w.seats)
    (hothers : ∀ j, j ≠ i → l'.queue.count (.turn j) + held hand' j =
      l.queue.count (.turn j) + held hand j)
    (hdue : l'.queue.count (.turn i) + held hand' i = w'.due)
    (hnodup : l'.line.Nodup) (hline : ∀ j, j ≠ i → (j ∈ l'.line ↔ j ∈ l.line))
    (hmem : i ∈ l'.line ↔ w'.isInLine = true) (hlog : l'.log = l.log)
    (hruns : w'.runs = w.runs) (hstory : w'.Story i (l.marksOf i)) : Sound limit hand' l' :=
  h.update hw hworkers hplaces hothers hdue hnodup hline hmem (hlog.trans (List.append_nil _).symm)
    (Nat.zero_le _) (fun _ hmark => nomatch hmark) (fun n _ => by rw [hruns]; rfl)
    (by rwa [List.append_nil])

/-! ### What changes one call -/

section

variable {call : Call ε α} {phase : Phase ε α} {doomed : Bool} {mark : Mark ε α}

theorem Sound.not_mem_line (h : Sound limit hand l) (hw : l.workers[i]? = some w)
    (hline : w.isInLine = false) : i ∉ l.line := by
  rw [h.mem_line, hw, Option.any_some, hline]
  exact Bool.false_ne_true

theorem Sound.mem_line_of (h : Sound limit hand l) (hw : l.workers[i]? = some w)
    (hline : w.isInLine = true) : i ∈ l.line := by
  rw [h.mem_line, hw, Option.any_some, hline]

theorem Sound.not_mem_erase (h : Sound limit hand l) (i : Nat) : i ∉ l.line.erase i :=
  fun hmem => (h.nodup.mem_erase_iff.1 hmem).1 rfl

theorem add_held_none (n : Nat) {j : Nat} (hj : j ≠ i) : n + held none j = n + held (some i) j := by
  rw [held_none, held_of_ne hj]

theorem add_held_none_self (h : n + held (some i) i = 1) : n + held none i = 0 := by
  rw [held_self] at h
  exact Nat.succ.inj h

theorem count_push_turn_of_ne (l : Loop ε α) {j : Nat} (hj : j ≠ i) :
    (l.push [.turn i]).queue.count (.turn j) = l.queue.count (.turn j) := by
  simp [push, List.count_append, hj.symm]

theorem count_push_turn (l : Loop ε α) (i : Nat) :
    (l.push [.turn i]).queue.count (.turn i) = l.queue.count (.turn i) + 1 := by
  simp [push, List.count_append]

/-- What puts no turns into the queue keeps the invariant. -/
theorem Sound.push (h : Sound limit hand l) {handles : List Handle}
    (hhandles : ∀ j, .turn j ∉ handles) : Sound limit hand (l.push handles) := by
  refine ⟨h.places, fun j v hv => ?_, h.nodup, h.mem_line, h.running, h.bounded, h.story⟩
  have hnone : handles.count (.turn j) = 0 := List.count_eq_zero.2 (hhandles j)
  rw [Loop.push, List.count_append, hnone]
  exact h.due j v hv

/-- A call that has to wait stands in line. -/
theorem Sound.wait (h : Sound limit (some i) l) (hw : l.workers[i]? = some ⟨call, .fresh, false⟩) :
    Sound limit none ((l.setPhase i .waiting).setLine (l.line ++ [i])) := by
  have hdue : l.queue.count (.turn i) + held (some i) i = 1 := h.due i _ hw
  have hstory : l.marksOf i = [] := h.story i _ hw
  have hnodup : (l.line ++ [i]).Nodup := by
    rw [List.nodup_append_comm]
    exact List.nodup_cons.2 ⟨h.not_mem_line hw rfl, h.nodup⟩
  refine h.update_unmarked hw (workers_setPhase hw _) rfl (fun _ hj => add_held_none _ hj)
    (add_held_none_self hdue) hnodup (fun j hj => ?_) (iff_of_true ?_ rfl) rfl rfl hstory
  · rw [setLine, List.mem_append, List.mem_singleton]
    exact or_iff_left hj
  · exact List.mem_append_right _ (List.mem_singleton_self i)

/-- A call that came to a free place begins to run. -/
theorem Sound.enter_free (h : Sound limit hand l)
    (hw : l.workers[i]? = some ⟨call, .fresh, false⟩) (hfree : 0 < l.free) :
    Sound limit hand ((l.setFree (l.free - 1)).enter i call) := by
  have hdue : l.queue.count (.turn i) + held hand i = 1 := h.due i _ hw
  have hstory : l.marksOf i = [] := h.story i _ hw
  refine h.update hw (workers_setPhase hw _) (Nat.sub_add_cancel hfree) (fun _ _ => rfl) hdue
    h.nodup (fun _ _ => Iff.rfl) (iff_of_false (h.not_mem_line hw rfl) Bool.false_ne_true) rfl
    le_rfl (List.forall_mem_singleton.2 rfl) (fun _ _ => rfl) ?_
  rw [hstory]
  exact ⟨nofun, 0, Nat.zero_add _, rfl⟩

/-- A call that was given a place begins to run. -/
theorem Sound.enter_admitted (h : Sound limit hand l)
    (hw : l.workers[i]? = some ⟨call, .admitted, false⟩) :
    Sound limit hand ((l.setLine (l.line.erase i)).enter i call) := by
  have hdue : l.queue.count (.turn i) + held hand i = 1 := h.due i _ hw
  have hstory : l.marksOf i = [] := h.story i _ hw
  refine h.update hw (workers_setPhase hw _) rfl (fun _ _ => rfl) hdue (h.nodup.erase i)
    (fun _ hj => List.mem_erase_of_ne hj) (iff_of_false (h.not_mem_erase i) Bool.false_ne_true) rfl
    le_rfl (List.forall_mem_singleton.2 rfl) (fun _ _ => rfl) ?_
  rw [hstory]
  exact ⟨nofun, 0, Nat.zero_add _, rfl⟩

/-- A call lets the loop go on. -/
theorem Sound.pause {left : Nat} (h : Sound limit (some i) l)
    (hw : l.workers[i]? = some ⟨call, .running (left + 1) true, false⟩) :
    Sound limit none ((l.setPhase i (.running left false)).note (.paused i)) := by
  have hdue : l.queue.count (.turn i) + held (some i) i = 1 := h.due i _ hw
  obtain ⟨-, pauses, hpauses, hmarks⟩ := h.story i _ hw
  refine h.update hw (workers_setPhase hw _) rfl (fun _ hj => add_held_none _ hj)
    (add_held_none_self hdue) h.nodup (fun _ _ => Iff.rfl)
    (iff_of_false (h.not_mem_line hw rfl) Bool.false_ne_true) rfl le_rfl
    (List.forall_mem_singleton.2 rfl) (fun _ _ => rfl) ⟨nofun, pauses + 1, ?_, ?_⟩
  · rw [← hpauses, Nat.add_right_comm, Nat.add_assoc]
  · rw [hmarks, List.cons_append, ← List.replicate_succ']

/-- A call that runs ends or is cut. -/
theorem Sound.leave {left : Nat} {result : Option (Except ε α)} (h : Sound limit (some i) l)
    (hw : l.workers[i]? = some ⟨call, .running left true, doomed⟩) (hcall : mark.call = i)
    (hmark : ∀ n, mark.running n = n - 1)
    (hstory : (⟨call, .done result, doomed⟩ : Worker ε α).Story i (l.marksOf i ++ [mark])) :
    Sound limit none (((l.note mark).setPhase i (.done result)).setFree (l.free + 1)) := by
  have hdue : l.queue.count (.turn i) + held (some i) i = 1 := h.due i _ hw
  refine h.update hw (workers_setPhase hw _) rfl (fun _ hj => add_held_none _ hj)
    (add_held_none_self hdue) h.nodup (fun _ _ => Iff.rfl)
    (iff_of_false (h.not_mem_line hw rfl) Bool.false_ne_true) rfl le_rfl
    (List.forall_mem_singleton.2 hcall) (fun n hn => ?_) hstory
  rw [List.foldl_cons, List.foldl_nil, hmark]
  exact Nat.sub_add_cancel hn

/-- A call that did not run yet is cancelled. -/
theorem Sound.cancel (h : Sound limit (some i) l) (hw : l.workers[i]? = some ⟨call, phase, true⟩)
    (hdue : Worker.due ⟨call, phase, true⟩ = 1) (hruns : Worker.runs ⟨call, phase, true⟩ = 0)
    (hstory : ∀ marks, Worker.Story ⟨call, phase, true⟩ i marks → marks = []) :
    Sound limit none (((l.setLine (l.line.erase i)).setPhase i (.done none)).setFree
      (l.free + Worker.seats ⟨call, phase, true⟩)) :=
  h.update_unmarked hw (workers_setPhase hw _) rfl (fun _ hj => add_held_none _ hj)
    (add_held_none_self ((h.due i _ hw).trans hdue)) (h.nodup.erase i)
    (fun _ hj => List.mem_erase_of_ne hj) (iff_of_false (h.not_mem_erase i) Bool.false_ne_true)
    rfl hruns.symm ⟨rfl, .inl (hstory _ (h.story i _ hw))⟩

/-- A free place is given to a call in line. -/
theorem Sound.admit (h : Sound limit hand l)
    (hw : l.workers[i]? = some ⟨call, .waiting, false⟩) (hfree : 0 < l.free) :
    Sound limit hand (((l.setFree (l.free - 1)).setPhase i .admitted).push [.turn i]) := by
  have hdue : l.queue.count (.turn i) + held hand i = 0 := h.due i _ hw
  have hstory : l.marksOf i = [] := h.story i _ hw
  refine h.update_unmarked hw (workers_setPhase hw _) (Nat.sub_add_cancel hfree)
    (fun j hj => congrArg (· + held hand j) (count_push_turn_of_ne _ hj)) ?_ h.nodup
    (fun _ _ => Iff.rfl) (iff_of_true (h.mem_line_of hw rfl) rfl) rfl rfl hstory
  rw [count_push_turn, Nat.add_right_comm]
  exact congrArg (· + 1) hdue

/-- A call that was asleep can go on. -/
theorem Sound.awaken {left : Nat} (h : Sound limit hand l)
    (hw : l.workers[i]? = some ⟨call, .running left false, doomed⟩) :
    Sound limit hand ((l.setPhase i (.running left true)).push [.turn i]) := by
  have hdue : l.queue.count (.turn i) + held hand i = 0 := h.due i _ hw
  have hstory := (h.story i _ hw).2
  refine h.update_unmarked hw (workers_setPhase hw _) rfl
    (fun j hj => congrArg (· + held hand j) (count_push_turn_of_ne _ hj)) ?_ h.nodup
    (fun _ _ => Iff.rfl) (iff_of_false (h.not_mem_line hw rfl) Bool.false_ne_true) rfl rfl
    ⟨fun _ => rfl, hstory⟩
  rw [count_push_turn, Nat.add_right_comm]
  exact congrArg (· + 1) hdue

/-- A call is cancelled: a turn for that is due to it. -/
theorem Sound.doom (h : Sound limit hand l) (i : Nat) : Sound limit hand (l.doom i) := by
  cases hw : l.workers[i]? with
  | none => rwa [doom_of_none hw]
  | some w =>
    have hdue := h.due i w hw
    have hqueue : (l.doom i).queue = l.queue ++ if w.isAtRest then [.turn i] else [] := by
      simp [Loop.doom, Loop.push, hw]
    refine h.update_unmarked hw (workers_doom hw) (by rw [Worker.seats_doom]; rfl)
      (fun j hj => ?_) ?_ h.nodup (fun _ _ => Iff.rfl) ?_ rfl w.runs_doom (h.story i w hw).doom
    · cases hrest : w.isAtRest <;> simp [hqueue, hrest, hj.symm, List.count_append]
    · rw [Worker.due_doom, ← hdue, hqueue]
      cases hrest : w.isAtRest <;> simp [List.count_append]; omega
    · rw [Worker.isInLine_doom]
      exact (h.mem_line i).trans (by rw [hw, Option.any_some])

end

end Retrace.Loop

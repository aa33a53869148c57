import Mathlib.Data.List.Basic
import Retrace.Loop.Basic

/-!
# Steps of an event loop

A turn of a call goes one of a few ways, and so does what a loop does with news. They are listed
once, with what has to hold for each of them, so that whatever is claimed of a loop is looked at way
by way.

* `Worker.due`: the turns that are due to a call;
* `workers_setPhase`, `workers_doom`, `getElem?_admitNext`: the calls after what changes one of
  them;
* `Turn`, `News`: the ways of a turn and of news.

Main statements: `turn_spec` and `news_spec`.
-/

namespace Retrace.Loop

variable {ε α : Type} {l : Loop ε α} {i : Nat} {w : Worker ε α}

/-- The turns that are due to a call. -/
def Worker.due (w : Worker ε α) : Nat :=
  match w.phase with
  | .fresh => 1
  | .waiting => if w.doomed then 1 else 0
  | .admitted => 1
  | .running _ awake => if awake then 1 else 0
  | .done _ => 0

/-! ### Calls after a change -/

/-- A call in a new phase takes the place of the old one. -/
theorem workers_setPhase (h : l.workers[i]? = some w) (phase : Phase ε α) :
    (l.setPhase i phase).workers = l.workers.set i ⟨w.call, phase, w.doomed⟩ := by
  rw [setPhase, List.modify_eq_set_getElem?, h]
  rfl

theorem getElem?_setPhase (hw : l.workers[i]? = some w) (phase : Phase ε α) :
    (l.setPhase i phase).workers[i]? = some ⟨w.call, phase, w.doomed⟩ := by
  rw [workers_setPhase hw, List.getElem?_set_self (List.getElem?_eq_some_iff.1 hw).1]

theorem getElem?_enter (hw : l.workers[i]? = some w) (call : Call ε α) :
    (l.enter i call).workers[i]? = some ⟨w.call, .running call.yields true, w.doomed⟩ :=
  getElem?_setPhase hw _

theorem doom_of_none (hw : l.workers[i]? = none) : l.doom i = l := by
  simp [doom, Loop.push, List.modify_eq_set_getElem?, hw]

theorem workers_doom (hw : l.workers[i]? = some w) :
    (l.doom i).workers = l.workers.set i w.doom := by
  simp [doom, Loop.push, List.modify_eq_set_getElem?, hw]

theorem isWaiting_eq_true : l.isWaiting i = true ↔
    ∃ call, l.workers[i]? = some ⟨call, .waiting, false⟩ := by
  rw [isWaiting, Option.any_eq_true]
  constructor
  · rintro ⟨⟨call, phase, doomed⟩, hw, hwaiting⟩
    cases phase <;> simp [Worker.isWaiting] at hwaiting
    exact ⟨call, hwaiting ▸ hw⟩
  · rintro ⟨call, hw⟩
    exact ⟨_, hw, rfl⟩

/-- A call that neither waits nor is out of reach is left alone. -/
theorem getElem?_admitNext (hw : l.workers[i]? = some w) (hrest : w.isWaiting = false) :
    l.admitNext.workers[i]? = some w := by
  rw [admitNext]
  split
  · exact hw
  · next j hfind =>
    have hne : j ≠ i := by
      rintro rfl
      have hwaiting := List.find?_some hfind
      rw [isWaiting, hw, Option.any_some, hrest] at hwaiting
      exact Bool.false_ne_true hwaiting
    obtain ⟨other, hother⟩ := isWaiting_eq_true.1 (List.find?_some hfind)
    have hother' : (l.setFree (l.free - 1)).workers[j]? = some ⟨other, .waiting, false⟩ := hother
    rw [push, workers_setPhase hother', List.getElem?_set_ne hne]
    exact hw

/-! ### Ways of a turn -/

/-- The ways of a turn. -/
inductive Turn (l : Loop ε α) (i : Nat) : Loop ε α → Prop
  /-- The call was not due for it. -/
  | idle (hidle : ∀ w, l.workers[i]? = some w → w.due = 0) : Turn l i l
  /-- The call has to wait for a place. -/
  | wait {call : Call ε α} (hw : l.workers[i]? = some ⟨call, .fresh, false⟩)
      (hlocked : l.isLocked = true) : Turn l i ((l.setPhase i .waiting).setLine (l.line ++ [i]))
  /-- It came to a free place. -/
  | enter {call : Call ε α} (hw : l.workers[i]? = some ⟨call, .fresh, false⟩)
      (hopen : l.isLocked = false) :
      Turn l i (((l.setFree (l.free - 1)).enter i call).proceed i call call.yields)
  /-- It waited for its place, and the last free one. -/
  | seat {call : Call ε α} (hw : l.workers[i]? = some ⟨call, .admitted, false⟩)
      (hfull : l.free = 0) :
      Turn l i (((l.setLine (l.line.erase i)).enter i call).proceed i call call.yields)
  /-- It waited for its place, and lets the next in line come in too. -/
  | usher {call : Call ε α} (hw : l.workers[i]? = some ⟨call, .admitted, false⟩)
      (hfree : 0 < l.free) :
      Turn l i (((l.setLine (l.line.erase i)).enter i call).admitNext.proceed i call call.yields)
  /-- It goes on. -/
  | proceed {call : Call ε α} {left : Nat}
      (hw : l.workers[i]? = some ⟨call, .running left true, false⟩) :
      Turn l i (l.proceed i call left)
  /-- It is cancelled before it came to the line. -/
  | shun {call : Call ε α} (hw : l.workers[i]? = some ⟨call, .fresh, true⟩) : Turn l i (l.retire i)
  /-- It is cancelled while it waits. -/
  | revoke {call : Call ε α} (hw : l.workers[i]? = some ⟨call, .waiting, true⟩) :
      Turn l i ((l.setLine (l.line.erase i)).retire i)
  /-- It is cancelled with a place that it did not take yet. -/
  | unseat {call : Call ε α} (hw : l.workers[i]? = some ⟨call, .admitted, true⟩) :
      Turn l i ((l.setLine (l.line.erase i)).vacate i none)
  /-- It is cancelled while it runs. -/
  | cut {call : Call ε α} {left : Nat}
      (hw : l.workers[i]? = some ⟨call, .running left true, true⟩) :
      Turn l i ((l.note (.cut i)).vacate i none)

theorem turn_spec (l : Loop ε α) (i : Nat) : l.Turn i (l.turn i) := by
  rw [turn]
  cases hw : l.workers[i]? with
  | none => exact .idle fun w hw' => nomatch hw.symm.trans hw'
  | some w =>
    have hidle : w.due = 0 → l.Turn i l := fun hdue =>
      .idle fun w' hw' => (Option.some.inj (hw.symm.trans hw')) ▸ hdue
    obtain ⟨call, phase, doomed⟩ := w
    cases phase with
    | fresh =>
      cases doomed with
      | false =>
        dsimp only
        split
        · next hlocked => exact .wait hw hlocked
        · next hopen => exact .enter hw (Bool.eq_false_iff.2 hopen)
      | true => exact .shun hw
    | waiting =>
      cases doomed with
      | false => exact hidle rfl
      | true => exact .revoke hw
    | admitted =>
      cases doomed with
      | false =>
        dsimp only
        split
        · next hfree => exact .usher hw hfree
        · next hfull => exact .seat hw (Nat.eq_zero_of_not_pos hfull)
      | true => exact .unseat hw
    | running left awake =>
      cases awake with
      | false => exact hidle rfl
      | true =>
        cases doomed with
        | false => exact .proceed hw
        | true => exact .cut hw
    | done result => exact hidle rfl

/-! ### Ways of news -/

/-- Whether something in the queue is for whoever gathers the calls. -/
def Handle.isNews : Handle → Bool
  | .turn _ => false
  | _ => true

/-- What news can do to a loop. -/
inductive News (l : Loop ε α) : Loop ε α → Prop
  /-- The gathering did not wait for it. -/
  | idle : News l l
  /-- The gathering waits for more. -/
  | stay (gathering : Gathering ε α) : News l (l.setGathering gathering)
  /-- The gathering goes on when its turn comes. -/
  | goOn (gathering : Gathering ε α) : News l ((l.setGathering gathering).push [.resume])
  /-- All calls that are left are cancelled. -/
  | clear (failure : ε) : News l (l.clear failure)

theorem news_spec {first : Handle} (hnews : first.isNews = true) (l : Loop ε α) :
    l.News (l.handle first) := by
  cases first with
  | turn i => cases hnews
  | told i =>
    rw [handle, hear]
    split
    · exact .goOn _
    · split
      · exact .goOn _
      · exact .stay _
    · exact .idle
  | cleared i =>
    rw [handle, hearCleared]
    split
    · split
      · exact .goOn _
      · exact .stay _
    · exact .idle
  | resume =>
    rw [handle, resume]
    split
    · exact .stay _
    · exact .clear _
    · exact .stay _
    · exact .idle

end Retrace.Loop

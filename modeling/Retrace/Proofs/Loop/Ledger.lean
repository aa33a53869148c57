import Mathlib.Data.List.Count
import Retrace.Proofs.Loop.Steady

/-!
# Ends of calls on an event loop

Whoever gathers calls is told of their ends, and of nothing else. The ledger of a loop has what a
gathering goes by: which calls ended and how, the news in the queue, and the order of the ends.

* `Standing`, `Ledger`, `ledger`: what is known of a call and of a loop from outside;
* `Ledger.finish`, `Ledger.Turned`: what a turn can do to a ledger.

Main statement: `turned_of_turn`, a turn leaves the ledger alone, or its call ends.
-/

namespace Retrace.Loop

variable {ε α : Type} {l l' : Loop ε α} {i : Nat} {w : Worker ε α}

/-! ### The ledger -/

/-- What is known of a call from outside: how it ended, if it did, and whether it was cancelled. -/
structure Standing (ε α : Type) where
  call : Call ε α
  ending : Option (Option (Except ε α))
  doomed : Bool

/-- The end of a call, if it ended. -/
def Phase.ending : Phase ε α → Option (Option (Except ε α))
  | .done result => some result
  | _ => none

def Worker.standing (w : Worker ε α) : Standing ε α := ⟨w.call, w.phase.ending, w.doomed⟩

/-- The call of whose end is told. -/
def Handle.told? : Handle → Option Nat
  | .told i => some i
  | _ => none

/-- Whether something in the queue is news for whoever waits for the last end. -/
def Handle.isCleared : Handle → Bool
  | .cleared _ => true
  | _ => false

/-- The end that a mark tells of. -/
def Mark.ending? : Mark ε α → Option (Nat × Except ε α)
  | .ended i result => some (i, result)
  | _ => none

/-- The calls that ended and were not cancelled, in the order of their ends. -/
def endings (l : Loop ε α) : List (Nat × Except ε α) := l.log.filterMap Mark.ending?

/-- What a gathering goes by: its calls, the news for it, how far it is, and the ends so far. -/
structure Ledger (ε α : Type) where
  calls : List (Standing ε α)
  news : List Handle
  gathering : Gathering ε α
  endings : List (Nat × Except ε α)

def ledger (l : Loop ε α) : Ledger ε α where
  calls := l.workers.map Worker.standing
  news := l.queue.filter Handle.isNews
  gathering := l.gathering
  endings := l.endings

@[simp] theorem ledger_setFree (l : Loop ε α) (free : Nat) : (l.setFree free).ledger = l.ledger :=
  rfl

@[simp] theorem ledger_setLine (l : Loop ε α) (line : List Nat) :
    (l.setLine line).ledger = l.ledger := rfl

@[simp] theorem ledger_setGathering (l : Loop ε α) (gathering : Gathering ε α) :
    (l.setGathering gathering).ledger = { l.ledger with gathering := gathering } := rfl

theorem ledger_push (l : Loop ε α) (handles : List Handle) :
    (l.push handles).ledger =
      { l.ledger with news := l.ledger.news ++ handles.filter Handle.isNews } := by
  simp [ledger, push, endings]

@[simp] theorem ledger_push_turn (l : Loop ε α) (i : Nat) :
    (l.push [.turn i]).ledger = l.ledger := by
  simp [ledger_push, Handle.isNews]

theorem ledger_note (l : Loop ε α) (mark : Mark ε α) :
    (l.note mark).ledger =
      { l.ledger with endings := l.ledger.endings ++ mark.ending?.toList } := by
  cases hmark : mark.ending? <;> simp [ledger, note, endings, hmark]

theorem getElem?_calls (l : Loop ε α) (i : Nat) :
    l.ledger.calls[i]? = l.workers[i]?.map Worker.standing :=
  List.getElem?_map

theorem ledger_setPhase (hw : l.workers[i]? = some w) (phase : Phase ε α) :
    (l.setPhase i phase).ledger =
      { l.ledger with calls := l.ledger.calls.set i ⟨w.call, phase.ending, w.doomed⟩ } := by
  rw [ledger, workers_setPhase hw, List.map_set]
  rfl

/-- A call that did not end, and does not end now, looks the same from outside. -/
theorem ledger_setPhase_of_eq (hw : l.workers[i]? = some w) (phase : Phase ε α)
    (hphase : phase.ending = w.phase.ending) : (l.setPhase i phase).ledger = l.ledger := by
  have hcall : l.ledger.calls[i]? = some ⟨w.call, phase.ending, w.doomed⟩ := by
    rw [getElem?_calls, hw, hphase]
    rfl
  obtain ⟨hi, hget⟩ := List.getElem?_eq_some_iff.1 hcall
  rw [ledger_setPhase hw, ← hget, List.set_getElem_self]

@[simp] theorem ledger_admitNext (l : Loop ε α) : l.admitNext.ledger = l.ledger := by
  rw [admitNext]
  split
  · rfl
  · next i hfind =>
    obtain ⟨call, hw⟩ := isWaiting_eq_true.1 (List.find?_some hfind)
    have hw' : (l.setFree (l.free - 1)).workers[i]? = some ⟨call, .waiting, false⟩ := hw
    rw [ledger_push_turn]
    exact ledger_setPhase_of_eq hw' _ rfl

/-! ### What a turn does to it -/

/-- A ledger after a call ended. -/
def Ledger.finish (b : Ledger ε α) (i : Nat) (call : Call ε α) (result : Option (Except ε α))
    (doomed : Bool) : Ledger ε α where
  calls := b.calls.set i ⟨call, some result, doomed⟩
  news := b.news ++ b.gathering.news i
  gathering := b.gathering
  endings := b.endings ++ (result.map (i, ·)).toList

/-- What a turn of a call can do to a ledger: nothing, or the call ends. It is cancelled only if it
is doomed. -/
inductive Ledger.Turned (b : Ledger ε α) (i : Nat) : Ledger ε α → Prop
  | same : Turned b i b
  | ended (call : Call ε α) (result : Option (Except ε α)) (doomed : Bool)
      (hopen : b.calls[i]? = some ⟨call, none, doomed⟩) (hcut : result = none → doomed = true) :
      Turned b i (b.finish i call result doomed)

theorem filter_news (gathering : Gathering ε α) (i : Nat) :
    (gathering.news i).filter Handle.isNews = gathering.news i := by
  cases gathering <;> rfl

theorem ledger_vacate (hw : l.workers[i]? = some w) (result : Option (Except ε α)) :
    (l.vacate i result).ledger =
      { l.ledger with
        calls := l.ledger.calls.set i ⟨w.call, some result, w.doomed⟩
        news := l.ledger.news ++ l.gathering.news i } := by
  rw [vacate, ledger_push, filter_news, release, ledger_admitNext, ledger_setFree,
    ledger_setPhase hw]
  rfl

theorem ledger_retire (hw : l.workers[i]? = some w) :
    (l.retire i).ledger =
      { l.ledger with
        calls := l.ledger.calls.set i ⟨w.call, some none, w.doomed⟩
        news := l.ledger.news ++ l.gathering.news i } := by
  rw [retire, ledger_push, filter_news, ledger_setPhase hw]
  rfl

/-- A doomed call ends without a result. -/
theorem turned_cancelled {call : Call ε α} {phase : Phase ε α}
    (hw : l.workers[i]? = some ⟨call, phase, true⟩) (hopen : phase.ending = none)
    (hledger : l'.ledger =
      { l.ledger with
        calls := l.ledger.calls.set i ⟨call, some none, true⟩
        news := l.ledger.news ++ l.gathering.news i }) : l.ledger.Turned i l'.ledger := by
  have hcall : l.ledger.calls[i]? = some ⟨call, none, true⟩ := by
    rw [getElem?_calls, hw, Option.map_some, Worker.standing, hopen]
  have hended : l'.ledger = l.ledger.finish i call none true := by
    rw [hledger, Ledger.finish]
    simp [ledger]
  exact hended ▸ .ended _ _ _ hcall fun _ => rfl

theorem turned_proceed {call : Call ε α} {left : Nat}
    (hw : l.workers[i]? = some ⟨call, .running left true, false⟩) :
    l.ledger.Turned i (l.proceed i call left).ledger := by
  cases left with
  | zero =>
    have hcall : l.ledger.calls[i]? = some ⟨call, none, false⟩ := by
      rw [getElem?_calls, hw]
      rfl
    have hended : (l.proceed i call 0).ledger =
        l.ledger.finish i call (some call.result) false := by
      have hw' : (l.note (.ended i call.result)).workers[i]? =
        some ⟨call, .running 0 true, false⟩ := hw
      rw [proceed, ledger_vacate hw', ledger_note]
      rfl
    exact hended ▸ .ended _ _ _ hcall nofun
  | succ left =>
    have hsame : (l.proceed i call (left + 1)).ledger = l.ledger := by
      rw [proceed, ledger_note, ledger_setPhase_of_eq hw (.running left false) rfl]
      simp [Mark.ending?]
    exact hsame ▸ .same

theorem ledger_enter (hw : l.workers[i]? = some w) (hopen : w.phase.ending = none)
    (call : Call ε α) : (l.enter i call).ledger = l.ledger := by
  rw [enter, ledger_note, ledger_setPhase_of_eq hw (.running call.yields true) hopen.symm]
  simp [Mark.ending?]

/-- A turn changes nothing that can be told of, or its call ends. -/
theorem turned_of_turn (hturn : l.Turn i l') : l.ledger.Turned i l'.ledger := by
  cases hturn with
  | idle => exact .same
  | wait hw =>
    rw [ledger_setLine, ledger_setPhase_of_eq hw .waiting rfl]
    exact .same
  | @enter call hw =>
    have hw' : (l.setFree (l.free - 1)).workers[i]? = some ⟨call, .fresh, false⟩ := hw
    exact ledger_enter hw' rfl call ▸ turned_proceed (getElem?_enter hw' call)
  | @seat call hw =>
    have hw' : (l.setLine (l.line.erase i)).workers[i]? = some ⟨call, .admitted, false⟩ := hw
    exact ledger_enter hw' rfl call ▸ turned_proceed (getElem?_enter hw' call)
  | @usher call hw =>
    have hw' : (l.setLine (l.line.erase i)).workers[i]? = some ⟨call, .admitted, false⟩ := hw
    have hproceed := turned_proceed (getElem?_admitNext (getElem?_enter hw' call) rfl)
    rwa [ledger_admitNext, ledger_enter hw' rfl call] at hproceed
  | proceed hw => exact turned_proceed hw
  | shun hw => exact turned_cancelled hw rfl (ledger_retire hw)
  | @revoke call hw =>
    have hw' : (l.setLine (l.line.erase i)).workers[i]? = some ⟨call, .waiting, true⟩ := hw
    exact turned_cancelled hw' rfl (ledger_retire hw')
  | @unseat call hw =>
    have hw' : (l.setLine (l.line.erase i)).workers[i]? = some ⟨call, .admitted, true⟩ := hw
    exact turned_cancelled hw' rfl (ledger_vacate hw' none)
  | @cut call left hw =>
    have hcut : (l.note (.cut i)).ledger = l.ledger := by simp [ledger_note, Mark.ending?]
    have hw' : (l.note (.cut i)).workers[i]? = some ⟨call, .running left true, true⟩ := hw
    exact hcut ▸ turned_cancelled hw' rfl (ledger_vacate hw' none)

end Retrace.Loop

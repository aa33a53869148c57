import Retrace.Proofs.Loop.Stages

/-!
# News for a gathering

Each stage of a gathering waits for one kind of news, which leads to the next stage or keeps it; all
other news are ignored. With the turns of the calls that gives an invariant of everything that can
happen to a loop.

* `Gathering.awaits`: what a gathering waits for;
* `Standing.doom`, `overs`, `ledger_clear`: the ledger after all calls that are left were cancelled;
* `Kept`: the invariant of loops between two things that happen.

Main statements: `staged_handle`, news lead from stage to stage, and `Kept.after`, the invariant
holds after every run.
-/

namespace Retrace.Loop

open Ledger

variable {ε α : Type} {l l' : Loop ε α} {i : Nat} {w : Worker ε α} {failure : ε}

/-! ### What a gathering waits for -/

theorem bind_result? (l : Loop ε α) (i : Nat) :
    l.workers[i]?.bind Worker.result? = l.ledger.calls[i]?.bind fun call => call.ending.join := by
  rw [getElem?_calls, Option.bind_map]
  refine congrArg _ (funext fun w => ?_)
  rcases w with ⟨call, phase, doomed⟩
  cases phase <;> rfl

/-- If all calls ended with values, these are the values of the loop. -/
theorem done_values (h : ∀ call ∈ l.ledger.calls, ∃ value, call.ending = some (some (.ok value))) :
    l.ledger.Done l.values := by
  have hall : ∀ ws : List (Worker ε α),
      (∀ w ∈ ws, ∃ value, w.phase.ending = some (some (.ok value))) →
      ws.map (fun w => w.phase.ending) =
        (ws.filterMap fun w => w.result?.bind Except.toOption).map fun value =>
          some (some (.ok value)) := by
    intro ws
    induction ws with
    | nil => exact fun _ => rfl
    | cons w rest ih =>
      intro hws
      obtain ⟨value, hvalue⟩ := hws w List.mem_cons_self
      have hresult : w.result?.bind Except.toOption = some value := by
        rcases w with ⟨call, phase, doomed⟩
        cases phase <;> cases hvalue
        rfl
      simp only [List.map_cons, hvalue, List.filterMap_cons, hresult,
        ih fun v hv => hws v (List.mem_cons_of_mem w hv)]
  rw [Done, ledger, List.map_map, values]
  exact hall _ fun w hw => h w.standing (List.mem_map_of_mem hw)

/-- Whether a gathering waits for something in the queue. -/
def Gathering.awaits : Gathering ε α → Handle → Bool
  | .listening _, .told _ => true
  | .settled _, .resume => true
  | .clearing _ _, .cleared _ => true
  | .cleared _, .resume => true
  | _, _ => false

/-- A gathering goes on only with what it waits for. -/
theorem handle_of_not_awaits {first : Handle} (hnews : first.isNews = true)
    (h : l.gathering.awaits first = false) : l.handle first = l := by
  cases first with
  | turn i => cases hnews
  | told i =>
    rw [handle, hear]
    split
    · next hgathering _ => simp [hgathering, Gathering.awaits] at h
    · next hgathering _ => simp [hgathering, Gathering.awaits] at h
    · rfl
  | cleared i =>
    rw [handle, hearCleared]
    split
    · next hgathering => simp [hgathering, Gathering.awaits] at h
    · rfl
  | resume =>
    rw [handle, resume]
    split
    · next hgathering => simp [hgathering, Gathering.awaits] at h
    · next hgathering => simp [hgathering, Gathering.awaits] at h
    · next hgathering => simp [hgathering, Gathering.awaits] at h
    · rfl

theorem mem_of_not_awaits {first : Handle} {news : List Handle} {gathering : Gathering ε α}
    (h : gathering.awaits first = false) (hresume : gathering.awaits .resume = true)
    (hmem : .resume ∈ first :: news) : .resume ∈ news := by
  refine List.mem_of_ne_of_mem (fun heq => ?_) hmem
  rw [← heq, hresume] at h
  exact Bool.false_ne_true h.symm

/-- What a gathering does not wait for can be left out of its news. -/
theorem Ledger.Staged.ignore {b : Ledger ε α} {first : Handle} {news : List Handle}
    (h : Staged { b with news := first :: news }) (hfirst : b.gathering.awaits first = false) :
    Staged { b with news := news } := by
  cases h with
  | listening noted pending hgathering hendings hnoted hpending hover hfew hspared hearly =>
    rw [show b.gathering = _ from hgathering] at hfirst
    have hcleared := List.countP_eq_zero.1 hearly
    refine .listening noted pending hgathering hendings hnoted ?_ hover hfew hspared
      (List.countP_eq_zero.2 fun a ha => hcleared a (List.mem_cons_of_mem _ ha))
    cases first with
    | told i => cases hfirst
    | _ => exact hpending
  | succeeded values hgathering hdone hresume =>
    rw [show b.gathering = _ from hgathering] at hfirst
    exact .succeeded values hgathering hdone (mem_of_not_awaits hfirst rfl hresume)
  | failed failure hgathering hfailed hresume hearly =>
    rw [show b.gathering = _ from hgathering] at hfirst
    have hcleared := List.countP_eq_zero.1 hearly
    exact .failed failure hgathering hfailed (mem_of_not_awaits hfirst rfl hresume)
      (List.countP_eq_zero.2 fun a ha => hcleared a (List.mem_cons_of_mem _ ha))
  | clearing failure heard hgathering hfailed hdoomed hover hfew =>
    rw [show b.gathering = _ from hgathering] at hfirst
    refine .clearing failure heard hgathering hfailed hdoomed ?_ hfew
    cases first with
    | cleared i => cases hfirst
    | _ => exact hover
  | cleared failure hgathering hfailed hover hresume =>
    rw [show b.gathering = _ from hgathering] at hfirst
    exact .cleared failure hgathering hfailed hover (mem_of_not_awaits hfirst rfl hresume)
  | returned values hgathering hdone => exact .returned values hgathering hdone
  | raised failure hgathering hfailed hover => exact .raised failure hgathering hfailed hover

/-- Whoever was told of all ends, and of no failure, has the values of all calls. -/
theorem done_of_heard (hcandid : l.ledger.Candid) {noted : List (Nat × Except ε α)}
    (hnoted : ∀ e ∈ noted, ∃ value, e.2 = .ok value) (hendings : l.ledger.endings = noted)
    (hspared : ∀ call ∈ l.ledger.calls, call.doomed = false) (hover : l.ledger.IsOver) :
    l.ledger.Done l.values := by
  refine done_values fun call hcall => ?_
  obtain ⟨i, hi⟩ := List.mem_iff_getElem?.1 hcall
  obtain ⟨call, ending, doomed⟩ := call
  cases ending with
  | none => exact absurd (hover _ hcall) Bool.false_ne_true
  | some result =>
    cases result with
    | none => exact absurd ((hspared _ hcall).symm.trans (hcandid.cut i call doomed hi)) nofun
    | some result =>
      have hmem : (i, result) ∈ noted := hendings ▸ (hcandid.told i result).2 ⟨call, doomed, hi⟩
      obtain ⟨value, hvalue⟩ := hnoted _ hmem
      exact ⟨value, congrArg (fun r => some (some r)) hvalue⟩

theorem firstFailure?_of_ok {noted : List (Nat × Except ε α)}
    (hnoted : ∀ e ∈ noted, ∃ value, e.2 = .ok value) : firstFailure? noted = none := by
  rw [firstFailure?, List.findSome?_eq_none_iff]
  rintro ⟨i, result⟩ hmem
  obtain ⟨value, rfl⟩ := hnoted _ hmem
  rfl

/-- A gathering is told of the end of a call. -/
theorem staged_hear (hcandid : l.ledger.Candid) {noted rest : List (Nat × Except ε α)}
    {result : Except ε α} (hgathering : l.gathering = .listening noted.length)
    (hendings : l.ledger.endings = noted ++ (i, result) :: rest)
    (hnoted : ∀ e ∈ noted, ∃ value, e.2 = .ok value)
    (hpending : l.ledger.news.filterMap Handle.told? = rest.map Prod.fst)
    (hover : l.ledger.endings.length = l.ledger.ended)
    (hfew : noted.length < l.ledger.calls.length)
    (hspared : ∀ call ∈ l.ledger.calls, call.doomed = false)
    (hearly : l.ledger.news.countP Handle.isCleared = 0) : (l.hear i).ledger.Staged := by
  have hresult : l.workers[i]?.bind Worker.result? = some result := by
    obtain ⟨_, _, hcall⟩ := (hcandid.told i result).1 (by simp [hendings])
    rw [bind_result?, hcall]
    rfl
  have hlength : l.ledger.calls.length = l.workers.length := List.length_map _
  have hcount : noted.length + (rest.length + 1) = l.ledger.ended := by
    rw [← hover, hendings, List.length_append, List.length_cons]
  rw [hear, hgathering, hresult]
  cases result with
  | error failure =>
    dsimp only
    rw [ledger_push]
    refine .failed failure rfl ⟨i, ?_⟩ (by simp [Handle.isNews]) ?_
    · change firstFailure? l.ledger.endings = _
      rw [hendings, firstFailure?, List.findSome?_append, ← firstFailure?,
        firstFailure?_of_ok hnoted]
      rfl
    · rw [List.countP_append]
      exact Nat.add_eq_zero_iff.2 ⟨hearly, rfl⟩
  | ok value =>
    have hnoted' : ∀ e ∈ noted ++ [(i, Except.ok value)], ∃ value, e.2 = .ok value := by
      intro e he
      rcases List.mem_append.1 he with he | he
      · exact hnoted e he
      · exact ⟨value, by rw [List.mem_singleton.1 he]⟩
    dsimp only
    split
    · next hlast =>
      have hle : l.ledger.ended ≤ l.ledger.calls.length := List.countP_le_length
      obtain rfl : rest = [] := List.eq_nil_of_length_eq_zero (by omega)
      have hdone : l.ledger.Done l.values :=
        done_of_heard hcandid hnoted' hendings hspared (isOver_of_le (by omega))
      rw [ledger_push]
      exact .succeeded _ rfl hdone (by simp [Handle.isNews])
    · next hmore =>
      refine .listening (noted ++ [(i, .ok value)]) rest ?_ ?_ hnoted' hpending hover ?_ hspared
        hearly
      · rw [List.length_append]
        rfl
      · rw [List.append_assoc]
        exact hendings
      · rw [List.length_append, List.length_singleton]
        change noted.length + 1 < l.ledger.calls.length
        omega

/-- A gathering that waits for the last end is told of an end. -/
theorem staged_hearCleared {heard : Nat} (hgathering : l.gathering = .clearing failure heard)
    (hfirst : l.ledger.FailedWith failure)
    (hdoomed : ∀ call ∈ l.ledger.calls, call.ending = none → call.doomed = true)
    (hover : heard + (l.ledger.news.countP Handle.isCleared + 1) = l.ledger.ended)
    (hfew : heard < l.ledger.calls.length) : l.hearCleared.ledger.Staged := by
  have hlength : l.ledger.calls.length = l.workers.length := List.length_map _
  rw [hearCleared, hgathering]
  dsimp only
  split
  · next hlast =>
    have hall : l.ledger.IsOver := isOver_of_le (by omega)
    rw [ledger_push]
    exact .cleared failure rfl hfirst hall (by simp [Handle.isNews])
  · next hmore =>
    have hover' : heard + 1 + l.ledger.news.countP Handle.isCleared = l.ledger.ended := by omega
    have hfew' : heard + 1 < l.ledger.calls.length := by omega
    exact .clearing failure (heard + 1) rfl hfirst hdoomed hover' hfew'

/-! ### Cancellation -/

/-- A call that is cancelled unless it ended. -/
def Standing.doom (call : Standing ε α) : Standing ε α :=
  ⟨call.call, call.ending, call.doomed || call.ending.isNone⟩

theorem Worker.standing_doom (w : Worker ε α) : w.doom.standing = w.standing.doom := by
  rcases w with ⟨call, phase, doomed⟩
  cases phase <;> simp [doom, standing, Standing.doom, Phase.ending]

theorem ledger_doom (l : Loop ε α) (i : Nat) :
    (l.doom i).ledger = { l.ledger with calls := l.ledger.calls.modify i Standing.doom } := by
  have hcalls : (l.workers.modify i Worker.doom).map Worker.standing =
      (l.workers.map Worker.standing).modify i Standing.doom := by
    refine List.ext_getElem? fun j => ?_
    rw [List.getElem?_map, List.getElem?_modify, List.getElem?_modify, List.getElem?_map]
    cases l.workers[j]? with
    | none => rfl
    | some w => by_cases hij : i = j <;> simp [hij, Worker.standing_doom]
  have hturns : (if l.workers[i]?.any Worker.isAtRest then [.turn i] else []).filter
      Handle.isNews = [] := by
    split <;> rfl
  rw [doom, ledger_push, hturns, List.append_nil]
  exact congrArg (fun calls => (⟨calls, _, _, _⟩ : Ledger ε α)) hcalls

theorem getElem?_foldl_modify {β : Type} (f : β → β) (n j : Nat) (xs : List β) :
    ((List.range n).foldl (fun ys i => ys.modify i f) xs)[j]? =
      if j < n then xs[j]?.map f else xs[j]? := by
  induction n with
  | zero => rfl
  | succ n ih =>
    rw [List.range_succ, List.foldl_append, List.foldl_cons, List.foldl_nil, List.getElem?_modify,
      ih]
    cases xs[j]? with
    | none => simp
    | some x =>
      rcases Nat.lt_trichotomy j n with hlt | rfl | hgt
      · simp [hlt, Nat.lt_succ_of_lt hlt, Nat.ne_of_gt hlt]
      · simp
      · simp [Nat.lt_asymm hgt, Nat.not_lt.2 hgt, Nat.ne_of_lt hgt]

theorem ledger_foldl_doom (l : Loop ε α) (n : Nat) :
    ((List.range n).foldl doom l).ledger =
      { l.ledger with
        calls := (List.range n).foldl (fun calls i => calls.modify i Standing.doom)
          l.ledger.calls } := by
  induction n with
  | zero => rfl
  | succ n ih =>
    simp only [List.range_succ, List.foldl_append, List.foldl_cons, List.foldl_nil, ledger_doom, ih]

/-- The news of the calls that ended before all others were cancelled. -/
def overs (l : Loop ε α) : List Handle :=
  ((List.range l.workers.length).filter fun i => l.workers[i]?.any Worker.isOver).map .cleared

theorem ledger_clear (l : Loop ε α) (failure : ε) :
    (l.clear failure).ledger =
      { calls := l.ledger.calls.map Standing.doom
        news := l.ledger.news ++ l.overs
        gathering := .clearing failure 0
        endings := l.ledger.endings } := by
  have hcalls : (List.range l.workers.length).foldl
      (fun calls i => calls.modify i Standing.doom) l.ledger.calls =
      l.ledger.calls.map Standing.doom := by
    refine List.ext_getElem? fun j => ?_
    rw [getElem?_foldl_modify, List.getElem?_map, getElem?_calls]
    split
    · rfl
    · next hj => rw [List.getElem?_eq_none (Nat.le_of_not_lt hj)]; rfl
  have hnews : l.overs.filter Handle.isNews = l.overs := by
    refine List.filter_eq_self.2 fun handle hhandle => ?_
    obtain ⟨i, -, rfl⟩ := List.mem_map.1 hhandle
    rfl
  rw [clear, ← overs, ledger_push, hnews, ledger_setGathering, ledger_foldl_doom, hcalls]

theorem countP_range_getElem? {β : Type} (p : β → Bool) (xs : List β) :
    (List.range xs.length).countP (fun i => xs[i]?.any p) = xs.countP p := by
  induction xs with
  | nil => rfl
  | cons x rest ih =>
    rw [List.length_cons, List.range_succ_eq_map, List.countP_cons, List.countP_map,
      List.countP_cons, ← ih]
    rfl

theorem countP_overs (l : Loop ε α) : l.overs.countP Handle.isCleared = l.ledger.ended := by
  have hall : ∀ is : List Nat, (is.map Handle.cleared).countP Handle.isCleared = is.length :=
    fun is => by
      rw [List.countP_map]
      exact List.countP_eq_length.2 fun _ _ => rfl
  have hover : (fun call : Standing ε α => call.ending.isSome) ∘ Worker.standing =
      Worker.isOver := by
    funext w
    rcases w with ⟨call, phase, doomed⟩
    cases phase <;> rfl
  rw [overs, hall, ← List.countP_eq_length_filter, countP_range_getElem?, ended, ledger,
    List.countP_map, hover]

/-- A call that failed is one of the calls. -/
theorem Ledger.FailedWith.length_pos {b : Ledger ε α} (h : b.FailedWith failure)
    (hcandid : b.Candid) : 0 < b.calls.length := by
  obtain ⟨i, hfirst⟩ := h
  rw [firstFailure?] at hfirst
  obtain ⟨⟨j, result⟩, hmem, -⟩ := List.exists_of_findSome?_eq_some hfirst
  obtain ⟨_, _, hcall⟩ := (hcandid.told j result).1 hmem
  exact Nat.zero_lt_of_lt (List.getElem?_eq_some_iff.1 hcall).1

theorem staged_clear (hcandid : l.ledger.Candid) (hfirst : l.ledger.FailedWith failure)
    (hearly : l.ledger.news.countP Handle.isCleared = 0) : (l.clear failure).ledger.Staged := by
  rw [ledger_clear]
  refine .clearing failure 0 rfl hfirst (fun call hcall hnone => ?_) ?_ ?_
  · obtain ⟨before, -, rfl⟩ := List.mem_map.1 hcall
    change (before.doomed || before.ending.isNone) = true
    rw [show before.ending = none from hnone, Option.isNone_none, Bool.or_true]
  · rw [List.countP_append, hearly, countP_overs, Nat.zero_add, Nat.zero_add, ended, ended,
      List.countP_map]
    rfl
  · exact (List.length_map _).symm ▸ hfirst.length_pos hcandid

theorem candid_clear (hcandid : l.ledger.Candid) (failure : ε) :
    (l.clear failure).ledger.Candid := by
  rw [ledger_clear]
  constructor
  · intro i result
    rw [hcandid.told, List.getElem?_map]
    constructor
    · rintro ⟨call, doomed, hcall⟩
      exact ⟨call, doomed, by simp [hcall, Standing.doom]⟩
    · rintro ⟨call, doomed, hcall⟩
      obtain ⟨⟨call', ending, doomed'⟩, hbefore, heq⟩ := Option.map_eq_some_iff.1 hcall
      obtain ⟨-, rfl, -⟩ := Standing.mk.inj heq
      exact ⟨call', doomed', hbefore⟩
  · intro i call doomed hcall
    rw [List.getElem?_map] at hcall
    obtain ⟨⟨call', ending, doomed'⟩, hbefore, heq⟩ := Option.map_eq_some_iff.1 hcall
    obtain ⟨-, rfl, hdoomed⟩ := Standing.mk.inj heq
    rw [← hdoomed, hcandid.cut i call' doomed' hbefore]
    rfl

/-! ### Runs -/

variable {calls : List (Call ε α)}

/-- What holds of a gathering of calls between two things that happen. -/
structure Kept (calls : List (Call ε α)) (l : Loop ε α) : Prop where
  calls : l.ledger.calls.map Standing.call = calls
  candid : l.ledger.Candid
  staged : l.ledger.Staged

theorem map_call_news (hnews : l.News l') :
    l'.ledger.calls.map Standing.call = l.ledger.calls.map Standing.call := by
  cases hnews with
  | clear failure =>
    rw [ledger_clear, List.map_map]
    rfl
  | _ => rfl

theorem Ledger.Candid.news (h : l.ledger.Candid) (hnews : l.News l') : l'.ledger.Candid := by
  cases hnews with
  | clear failure => exact candid_clear h failure
  | _ => exact ⟨h.told, h.cut⟩

theorem staged_handle {first : Handle} (hnews : first.isNews = true) (hcandid : l.ledger.Candid)
    (h : Staged { l.ledger with news := first :: l.ledger.news }) :
    (l.handle first).ledger.Staged := by
  cases hawaits : l.gathering.awaits first with
  | false =>
    rw [handle_of_not_awaits hnews hawaits]
    exact h.ignore hawaits
  | true =>
    cases h with
    | listening noted pending hgathering hendings hnoted hpending hover hfew hspared hearly =>
      rw [show l.gathering = _ from hgathering] at hawaits
      cases first with
      | told i =>
        cases pending with
        | nil => cases hpending
        | cons e rest =>
          obtain ⟨hi, hrest⟩ := List.cons.inj hpending
          obtain ⟨j, result⟩ := e
          obtain rfl : i = j := hi
          exact staged_hear hcandid hgathering hendings hnoted hrest hover hfew hspared hearly
      | _ => cases hawaits
    | succeeded values hgathering hdone hresume =>
      rw [show l.gathering = _ from hgathering] at hawaits
      cases first with
      | resume =>
        rw [handle, resume, show l.gathering = _ from hgathering]
        exact .returned values rfl hdone
      | _ => cases hawaits
    | failed failure hgathering hfailed hresume hearly =>
      rw [show l.gathering = _ from hgathering] at hawaits
      cases first with
      | resume =>
        rw [handle, resume, show l.gathering = _ from hgathering]
        exact staged_clear hcandid hfailed hearly
      | _ => cases hawaits
    | clearing failure heard hgathering hfailed hdoomed hover hfew =>
      rw [show l.gathering = _ from hgathering] at hawaits
      cases first with
      | cleared i =>
        rw [List.countP_cons_of_pos rfl] at hover
        exact staged_hearCleared hgathering hfailed hdoomed hover hfew
      | _ => cases hawaits
    | cleared failure hgathering hfailed hover hresume =>
      rw [show l.gathering = _ from hgathering] at hawaits
      cases first with
      | resume =>
        rw [handle, resume, show l.gathering = _ from hgathering]
        exact .raised failure rfl hfailed hover
      | _ => cases hawaits
    | returned values hgathering hdone =>
      rw [show l.gathering = _ from hgathering] at hawaits
      cases first <;> cases hawaits
    | raised failure hgathering hfailed hover =>
      rw [show l.gathering = _ from hgathering] at hawaits
      cases first <;> cases hawaits

theorem Kept.next (h : Kept calls l) : Kept calls l.next := by
  rw [Loop.next]
  split
  · exact h
  · next first rest hqueue =>
    have hledger : l.ledger = { ({ l with queue := rest } : Loop ε α).ledger with
        news := (first :: rest).filter Handle.isNews } := by
      rw [← hqueue]
      rfl
    cases hnews : first.isNews with
    | false =>
      cases first with
      | turn i =>
        have hturned := turned_of_turn (turn_spec { l with queue := rest } i)
        rw [show ({ l with queue := rest } : Loop ε α).ledger = l.ledger from hledger.symm]
          at hturned
        exact ⟨hturned.map_call.trans h.calls, h.candid.turned hturned, h.staged.turned hturned⟩
      | _ => cases hnews
    | true =>
      have hcandid : ({ l with queue := rest } : Loop ε α).ledger.Candid :=
        ⟨h.candid.told, h.candid.cut⟩
      have hspec := news_spec hnews { l with queue := rest }
      refine ⟨(map_call_news hspec).trans h.calls, hcandid.news hspec,
        staged_handle hnews hcandid ?_⟩
      rw [List.filter_cons_of_pos hnews] at hledger
      exact hledger ▸ h.staged

theorem Kept.of_ledger {l' : Loop ε α} (h : Kept calls l) (hledger : l'.ledger = l.ledger) :
    Kept calls l' :=
  ⟨hledger ▸ h.calls, hledger ▸ h.candid, hledger ▸ h.staged⟩

theorem Kept.wake (h : Kept calls l) (i : Nat) : Kept calls (l.wake i) := by
  have hledger : (l.wake i).ledger = l.ledger := by
    rw [Loop.wake]
    split
    · next left _ hw => rw [ledger_push_turn, ledger_setPhase_of_eq hw (.running left true) rfl]
    · rfl
  exact h.of_ledger hledger

theorem Kept.step (h : Kept calls l) (tick : Tick) : Kept calls (l.step tick) := by
  cases tick with
  | next => exact h.next
  | wake i => exact h.wake i

theorem Kept.after (h : Kept calls l) (ticks : List Tick) : Kept calls (l.after ticks) := by
  induction ticks generalizing l with
  | nil => exact h
  | cons tick rest ih => exact ih (h.step tick)

/-! ### The start -/

theorem calls_start (limit : Nat) (calls : List (Call ε α)) :
    (start limit calls).ledger.calls = calls.map fun call => ⟨call, none, false⟩ := by
  rw [ledger, start, List.map_map]
  rfl

theorem news_start (limit : Nat) (calls : List (Call ε α)) :
    (start limit calls).ledger.news = [] := by
  rw [ledger, start, List.filter_map]
  simp [Handle.isNews, Function.comp_def]

/-- No call ended, and none was cancelled. -/
theorem open_of_mem_start {limit : Nat} {call : Standing ε α}
    (hcall : call ∈ (start limit calls).ledger.calls) :
    call.ending = none ∧ call.doomed = false := by
  rw [calls_start] at hcall
  obtain ⟨_, -, rfl⟩ := List.mem_map.1 hcall
  exact ⟨rfl, rfl⟩

theorem candid_start (limit : Nat) (calls : List (Call ε α)) :
    (start limit calls).ledger.Candid where
  told i result := by
    refine iff_of_false List.not_mem_nil ?_
    rintro ⟨call, doomed, hcall⟩
    cases (open_of_mem_start (List.mem_of_getElem? hcall)).1
  cut i call doomed hcall := by
    cases (open_of_mem_start (List.mem_of_getElem? hcall)).1

theorem staged_start (limit : Nat) (calls : List (Call ε α)) :
    (start limit calls).ledger.Staged := by
  cases calls with
  | nil => exact .returned [] rfl rfl
  | cons call rest =>
    have hnobody : (start limit (call :: rest)).ledger.ended = 0 := by
      refine List.countP_eq_zero.2 fun standing hstanding => ?_
      rw [(open_of_mem_start hstanding).1, Option.isSome_none]
      exact Bool.false_ne_true
    refine .listening [] [] rfl rfl (fun e he => absurd he List.not_mem_nil) ?_ hnobody.symm ?_
      (fun standing hstanding => (open_of_mem_start hstanding).2) ?_
    · rw [news_start]
      rfl
    · rw [calls_start]
      exact Nat.succ_pos _
    · rw [news_start]
      rfl

theorem Kept.start (limit : Nat) (calls : List (Call ε α)) : Kept calls (start limit calls) where
  calls := by
    rw [calls_start, List.map_map]
    exact List.map_id calls
  candid := candid_start limit calls
  staged := staged_start limit calls

end Retrace.Loop

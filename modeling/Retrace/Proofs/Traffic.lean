import Mathlib
import Retrace.Proofs.Reads
import Retrace.Resolver.Basic

/-!
# Traffic on a cache

Any number of calls ask one cache for files at the same time. The calls take turns in any order, may
be given up whenever they wait, and see a disk that may be another one at each turn. A file is
stored when the call that reads it comes to its end, and then for good; so all calls for one file
that get it get the same bytes, and a call that gets no file leaves the cache as it was. What is
noted plays no part here, so all calls work in one row of bound fields.

* `Request`, `Reply`: what a call asks for, bytes or their text, and what it gets;
* `Traffic.step`, `Traffic.run`: the calls and what they share, move by move;
* `Task.Serves`: how far a task that serves a request can have come;
* `Traffic.Sound`: the invariant, kept by each move in `Traffic.Sound.leadsTo_step`;
* `Traffic.cache_step`: only a call that gets a file changes the cache.

Main statement: `Traffic.run_kept`.
-/

namespace Retrace

/-- What a call asks for: the bytes of a file, or its text. -/
inductive Request
  | bytes (path : Path)
  | text (path : Path)

/-- What a call gets; nothing if there is no such file. -/
inductive Reply
  | bytes (found : Option Bytes)
  | text (found : Option Text)
  deriving DecidableEq

/-- Whether a reply has a file. -/
def Reply.hasFile : Reply → Bool
  | bytes found => found.isSome
  | text found => found.isSome

namespace Request

/-- The path that is asked for. -/
def path : Request → Path
  | bytes path => path
  | text path => path

/-- The work of a call. -/
def script : Request → Script Failure Reply
  | bytes path => do return .bytes (← Script.fetching path)
  | text path => do return .text (← fetchingText path)

/-- The reply of a call for a file. -/
def reply : Request → Option Bytes → Reply
  | bytes _, found => .bytes found
  | text _, found => .text (found.map Utf8.decodeLossy)

/-- How a call ends for what comes of asking for the file. -/
def answer (request : Request) (fetched : Fetched) : Except Failure Reply :=
  (fetched.mapError .ofFile).map request.reply

end Request

/-- How far a call has come. -/
inductive Stage
  | active (task : Task Failure Reply)
  /-- The call was given up. -/
  | cancelled

/-- A call: what it asks for, and how far it has come. -/
structure Call where
  request : Request
  stage : Stage

/-- How a call ended, if it has ended and was not given up. -/
def Call.outcome? (call : Call) : Option (Except Failure Reply) :=
  match call.stage with
  | .active (.ended outcome) => some outcome
  | _ => none

/-- Whether a call has got the file with some bytes. -/
def Call.Got (call : Call) (bytes : Bytes) : Prop :=
  call.outcome? = some (.ok (call.request.reply (some bytes)))

/-- Whether a call has got a file. -/
def Call.isServed (call : Call) : Bool :=
  match call.outcome? with
  | some (.ok reply) => reply.hasFile
  | _ => false

/-- The path that a call is reading. -/
def Call.reading? (call : Call) : Option Path :=
  match call.stage with
  | .active task => task.reading?
  | .cancelled => none

/-- What the calls share, and the calls in the order in which they were made. -/
structure Traffic where
  shared : Shared
  calls : List Call

/-- What can happen: a new call is made, a call has a turn, in which it sees a disk, or a call is
given up. -/
inductive Move
  | ask (request : Request)
  | turn (call : Nat) (disk : Disk)
  | cancel (call : Nat)

/-- The call that a move is about, if it was made before. -/
def Move.call? : Move → Option Nat
  | ask _ => none
  | turn call _ => some call
  | cancel call => some call

namespace Traffic

/-- A new cache, of which nothing was asked yet. -/
def start : Traffic := ⟨⟨.empty, [], .empty⟩, []⟩

/-- The cache. -/
def cache (t : Traffic) : Cache := t.shared.cache

/-- The traffic after a call has come to a stage. -/
def setStage (t : Traffic) (i : Nat) (call : Call) (shared : Shared) (stage : Stage) : Traffic :=
  ⟨shared, t.calls.set i ⟨call.request, stage⟩⟩

/-- The traffic after a move. A call that has ended, or was given up, stays as it is. -/
def step (t : Traffic) : Move → Traffic
  | .ask request => ⟨t.shared, t.calls ++ [⟨request, .active (.ready request.script)⟩]⟩
  | .turn i disk =>
    match t.calls[i]? with
    | none => t
    | some call =>
      match call.stage with
      | .cancelled => t
      | .active task =>
        t.setStage i call (task.turn disk t.shared).1 (.active (task.turn disk t.shared).2)
  | .cancel i =>
    match t.calls[i]? with
    | none => t
    | some call =>
      match call.stage with
      | .cancelled => t
      | .active (.ended _) => t
      | .active task => t.setStage i call (task.drop t.shared) .cancelled

/-- The traffic after moves in order. -/
def run (t : Traffic) (moves : List Move) : Traffic := moves.foldl step t

theorem run_append (t : Traffic) (moves more : List Move) :
    t.run (moves ++ more) = (t.run moves).run more := List.foldl_append

end Traffic

/-! ### One call -/

variable {s : Shared} {request : Request} {task : Task Failure Reply}

theorem Request.script_eq (request : Request) :
    request.script = .fetch request.path fun fetched => .done (request.answer fetched) := by
  cases request with
  | bytes path =>
    refine congrArg (Script.fetch path) (funext fun fetched => ?_)
    cases fetched <;> rfl
  | text path =>
    refine congrArg (Script.fetch path) (funext fun fetched => ?_)
    cases fetched <;> rfl

theorem Request.hasFile_reply (request : Request) (found : Option Bytes) :
    (request.reply found).hasFile = found.isSome := by
  cases request with
  | bytes path => rfl
  | text path => exact Option.isSome_map

/-- How far a task that serves a request can have come. If it has got a file, that is in the
cache. -/
inductive Task.Serves (cache : Cache) (request : Request) : Task Failure Reply → Prop
  | ready : Serves cache request (.ready request.script)
  | queued : Serves cache request
      (.queued request.path.absolute fun fetched => .done (request.answer fetched))
  | reading (context : Json.Fields) : Serves cache request
      (.reading request.path.absolute context fun fetched => .done (request.answer fetched))
  | served {bytes : Bytes} (h : cache.find? request.path.absolute = some bytes) :
      Serves cache request (.ended (.ok (request.reply (some bytes))))
  | missing : Serves cache request (.ended (.ok (request.reply none)))
  | failed (failure : Failure) : Serves cache request (.ended (.error failure))

theorem Task.Serves.mono {old new : Cache} (h : task.Serves old request)
    (hkept : ∀ path bytes, old.find? path = some bytes → new.find? path = some bytes) :
    task.Serves new request := by
  cases h with
  | ready => exact .ready
  | queued => exact .queued
  | reading context => exact .reading context
  | served h => exact .served (hkept _ _ h)
  | missing => exact .missing
  | failed failure => exact .failed failure

/-- What a turn of a task that serves a request does: the task goes on, and the cache stays as it is
unless the task gets its file. -/
structure Task.Advances (cache : Cache) (request : Request) (next : Shared × Task Failure Reply) :
    Prop where
  serves : next.2.Serves next.1.cache request
  kept : next.1.cache = cache ∨ ∃ bytes, next.2 = .ended (.ok (request.reply (some bytes)))

/-- A task whose file is in the cache has its file. -/
theorem Task.advances_found {bytes : Bytes}
    (h : s.cache.find? request.path.absolute = some bytes) (event : Event) :
    Task.Advances s.cache request
      ((Script.done (request.answer (.ok (some bytes)))).advance (s.note event)) where
  serves := .served h
  kept := .inl rfl

theorem Task.advances_ready (s : Shared) (request : Request) :
    Task.Advances s.cache request (request.script.advance s) := by
  rw [Request.script_eq, Script.advance]
  cases hfound : s.cache.find? request.path.absolute with
  | some bytes => exact advances_found hfound _
  | none =>
    dsimp only
    split
    · exact ⟨.queued, .inl rfl⟩
    · exact ⟨.reading _, .inl rfl⟩

/-- A read comes to its end: what the disk delivers is stored, and the task has it. -/
theorem Task.advances_finishRead (disk : Disk) (s : Shared) (request : Request)
    (context : Json.Fields) :
    Task.Advances s.cache request
      ((Script.done (request.answer (s.finishRead disk request.path.absolute context).2)).advance
        (s.finishRead disk request.path.absolute context).1) := by
  unfold Shared.finishRead
  cases disk.read request.path.absolute with
  | content bytes => exact ⟨.served (Cache.find?_store_self _ _ _), .inr ⟨bytes, rfl⟩⟩
  | absent => exact ⟨.missing, .inl rfl⟩
  | notFile => exact ⟨.missing, .inl rfl⟩
  | refused access errno => exact ⟨.failed _, .inl rfl⟩
  | nullByte => exact ⟨.failed _, .inl rfl⟩

theorem Task.Serves.advances_turn (h : task.Serves s.cache request) (disk : Disk) :
    Task.Advances s.cache request (task.turn disk s) := by
  cases h with
  | ready => exact Task.advances_ready s request
  | queued =>
    rw [Task.turn]
    split
    · exact ⟨.queued, .inl rfl⟩
    · cases hfound : s.cache.find? request.path.absolute with
      | some bytes => exact Task.advances_found hfound _
      | none => exact ⟨.reading _, .inl rfl⟩
  | reading context => exact Task.advances_finishRead disk s request context
  | served h => exact ⟨.served h, .inl rfl⟩
  | missing => exact ⟨.missing, .inl rfl⟩
  | failed failure => exact ⟨.failed failure, .inl rfl⟩

theorem Task.cache_drop (s : Shared) (task : Task Failure Reply) :
    (task.drop s).cache = s.cache := by
  cases task <;> rfl

/-! ### All calls -/

namespace Traffic

variable {t : Traffic}

/-- Whether the stage of a call is one that its request can have come to. -/
def Fits (cache : Cache) (call : Call) : Prop :=
  ∀ task, call.stage = .active task → task.Serves cache call.request

/-- The invariant of traffic. -/
structure Sound (t : Traffic) : Prop where
  orderly : t.shared.Orderly
  tidy : t.shared.taken.Perm (t.calls.filterMap Call.reading?)
  fits : ∀ call ∈ t.calls, Fits t.cache call

theorem sound_start : start.Sound where
  orderly := ⟨List.nodup_nil, nofun⟩
  tidy := .refl []
  fits := nofun

/-- Whether traffic led to sound traffic with a cache that has stored and counted its reads. -/
def LeadsTo (t next : Traffic) : Prop :=
  next.Sound ∧ ∃ reads, t.cache.Grown reads next.cache

theorem Sound.leadsTo_self (h : t.Sound) : t.LeadsTo t := ⟨h, [], .refl _⟩

/-- Of the taken paths, one is the path that an active call reads, if it reads one. -/
theorem Sound.exists_others (h : t.Sound) {i : Nat} {call : Call} {task : Task Failure Reply}
    (hcall : t.calls[i]? = some call) (htask : call.stage = .active task) :
    ∃ others, t.shared.taken.Perm (task.reading?.toList ++ others) ∧
      ∀ next, ((t.calls.set i next).filterMap Call.reading?).Perm
        (next.reading?.toList ++ others) := by
  obtain ⟨others, hcalls, hset⟩ := exists_perm_filterMap_set Call.reading? hcall
  have hreading : call.reading? = task.reading? := by rw [Call.reading?, htask]
  rw [hreading] at hcalls
  exact ⟨others, h.tidy.trans hcalls, hset⟩

/-- A call comes to another stage, and what is shared has changed in steps. -/
theorem Sound.leadsTo_setStage (h : t.Sound) {i : Nat} {call : Call} {shared : Shared}
    {stage : Stage} {disk : Disk} {others : List Path} (hreaches : t.shared.Reaches disk shared)
    (htaken : shared.taken.Perm ((Call.reading? ⟨call.request, stage⟩).toList ++ others))
    (hset : ∀ next, ((t.calls.set i next).filterMap Call.reading?).Perm
      (next.reading?.toList ++ others))
    (hfits : Fits shared.cache ⟨call.request, stage⟩) :
    t.LeadsTo (t.setStage i call shared stage) := by
  obtain ⟨reads, hmoves⟩ := hreaches
  obtain ⟨horderly, hgrown⟩ := hmoves.grown h.orderly
  refine ⟨⟨horderly, htaken.trans (hset _).symm, ?_⟩, reads, hgrown⟩
  intro other hother
  rcases List.mem_or_eq_of_mem_set hother with hold | rfl
  · intro task htask
    exact (h.fits other hold task htask).mono fun path bytes => hgrown.find?_of_old
  · exact hfits

/-- Each move keeps the invariant. -/
theorem Sound.leadsTo_step (h : t.Sound) (move : Move) : t.LeadsTo (t.step move) := by
  cases move with
  | ask request =>
    refine ⟨⟨h.orderly, ?_, ?_⟩, [], .refl _⟩
    · rw [step, List.filterMap_append]
      exact h.tidy.trans (.of_eq (List.append_nil _).symm)
    · intro call hcall
      rcases List.mem_append.1 hcall with hold | hnew
      · exact h.fits call hold
      · rw [List.mem_singleton.1 hnew]
        rintro task ⟨⟩
        exact .ready
  | turn i disk =>
    rw [step]
    split
    · exact h.leadsTo_self
    rename_i call hcall
    split
    · exact h.leadsTo_self
    rename_i task htask
    obtain ⟨others, hothers, hset⟩ := h.exists_others hcall htask
    obtain ⟨hreaches, htaken⟩ := Task.reaches_turn disk hothers
    refine h.leadsTo_setStage hreaches htaken hset ?_
    rintro next ⟨⟩
    exact ((h.fits call (List.mem_of_getElem? hcall) task htask).advances_turn disk).serves
  | cancel i =>
    rw [step]
    split
    · exact h.leadsTo_self
    rename_i call hcall
    split
    · exact h.leadsTo_self
    · exact h.leadsTo_self
    rename_i task hended htask
    obtain ⟨others, hothers, hset⟩ := h.exists_others hcall htask
    refine h.leadsTo_setStage (Task.reaches_drop .empty t.shared task)
      (Task.perm_taken_drop hothers) hset ?_
    rintro next ⟨⟩

theorem Sound.leadsTo_run (h : t.Sound) (moves : List Move) : t.LeadsTo (t.run moves) := by
  induction moves generalizing t with
  | nil => exact h.leadsTo_self
  | cons move rest ih =>
    obtain ⟨hsound, reads, hreads⟩ := h.leadsTo_step move
    obtain ⟨hend, more, hmore⟩ := ih hsound
    exact ⟨hend, _, hreads.trans hmore⟩

/-- Only a call that gets a file changes the cache. -/
theorem cache_step (h : t.Sound) (move : Move) :
    (t.step move).cache = t.cache ∨ ∃ i call, move.call? = some i ∧
      (t.step move).calls[i]? = some call ∧ call.isServed = true := by
  cases move with
  | ask request => exact .inl rfl
  | turn i disk =>
    rw [step]
    split
    · exact .inl rfl
    rename_i call hcall
    split
    · exact .inl rfl
    rename_i task htask
    have hserves := h.fits call (List.mem_of_getElem? hcall) task htask
    rcases (hserves.advances_turn disk).kept with hcache | ⟨bytes, hended⟩
    · exact .inl hcache
    · refine .inr ⟨i, _, rfl, List.getElem?_set_self (List.getElem?_eq_some_iff.1 hcall).1, ?_⟩
      rw [hended]
      exact Request.hasFile_reply _ _
  | cancel i =>
    rw [step]
    split
    · exact .inl rfl
    split
    · exact .inl rfl
    · exact .inl rfl
    · exact .inl (Task.cache_drop _ _)

/-- A call that has ended stays as it is. -/
theorem getElem?_step {i : Nat} {call : Call} {outcome : Except Failure Reply}
    (hcall : t.calls[i]? = some call) (hended : call.stage = .active (.ended outcome))
    (move : Move) : (t.step move).calls[i]? = some call := by
  have hlt := (List.getElem?_eq_some_iff.1 hcall).1
  cases move with
  | ask request => exact (List.getElem?_append_left hlt).trans hcall
  | turn j disk =>
    rw [step]
    split
    · exact hcall
    rename_i other hother
    split
    · exact hcall
    rename_i task htask
    by_cases hij : j = i
    · subst hij
      cases hother.symm.trans hcall
      cases htask.symm.trans hended
      rw [setStage, List.getElem?_set_self hlt]
      exact congrArg (fun stage => some (Call.mk call.request stage)) hended.symm
    · exact (List.getElem?_set_ne hij).trans hcall
  | cancel j =>
    rw [step]
    split
    · exact hcall
    rename_i other hother
    split
    · exact hcall
    · exact hcall
    rename_i task hactive htask
    by_cases hij : j = i
    · subst hij
      cases hother.symm.trans hcall
      exact absurd (htask.symm.trans hended) (by rintro ⟨⟩; exact hactive _ rfl)
    · exact (List.getElem?_set_ne hij).trans hcall

theorem getElem?_run {i : Nat} {call : Call} {outcome : Except Failure Reply}
    (hcall : t.calls[i]? = some call) (hended : call.stage = .active (.ended outcome))
    (moves : List Move) : (t.run moves).calls[i]? = some call := by
  induction moves generalizing t with
  | nil => exact hcall
  | cons move rest ih => exact ih (getElem?_step hcall hended move)

theorem stage_of_isServed {call : Call} (h : call.isServed = true) :
    ∃ outcome, call.stage = .active (.ended outcome) := by
  rw [Call.isServed, Call.outcome?] at h
  split at h
  · rename_i reply heq
    split at heq
    · rename_i outcome hstage
      exact ⟨outcome, hstage⟩
    · cases heq
  · cases h

/-- A call that has got a file has got the entry of its path. -/
theorem Sound.got_of_isServed (h : t.Sound) {call : Call} (hcall : call ∈ t.calls)
    (hserved : call.isServed = true) :
    ∃ bytes, t.cache.find? call.request.path.absolute = some bytes ∧ call.Got bytes := by
  obtain ⟨outcome, hstage⟩ := stage_of_isServed hserved
  have houtcome : call.outcome? = some outcome := by rw [Call.outcome?, hstage]
  rw [Call.isServed, houtcome] at hserved
  cases h.fits call hcall _ hstage with
  | @served bytes hfound => exact ⟨bytes, hfound, houtcome⟩
  | missing => cases (Request.hasFile_reply call.request none).symm.trans hserved
  | failed failure => cases hserved

/-- A move of a call that never gets a file leaves the cache as it is. -/
theorem Sound.cache_eq_of_not_served (h : t.Sound) {move : Move} {after : List Move} {i : Nat}
    {call : Call} (hmove : move.call? = some i)
    (hcall : (t.run (move :: after)).calls[i]? = some call) (hserved : call.isServed = false) :
    (t.step move).cache = t.cache := by
  rcases cache_step h move with hcache | ⟨j, other, hmove', hother, hother'⟩
  · exact hcache
  · -- the call that got the file would still have it
    rw [hmove, Option.some.injEq] at hmove'
    subst hmove'
    obtain ⟨outcome, hstage⟩ := stage_of_isServed hother'
    cases (getElem?_run hother hstage after).symm.trans hcall
    rw [hserved] at hother'
    cases hother'

/-- **What is read is kept.** However the calls on a new cache are interleaved, whichever of them
are given up, and whatever becomes of the disk meanwhile: as many files were read as are stored, no
file is stored twice, and no entry changes or goes; a call that gets a file gets the entry of its
path, so that two calls for one file that get it get the same; and the moves of a call that gets no
file, fails or is given up leave the cache as it is. -/
theorem run_kept (moves : List Move) :
    (start.run moves).cache.reads = (start.run moves).cache.size ∧
    ((start.run moves).cache.entries.map Prod.fst).Nodup ∧
    (∀ more path bytes, (start.run moves).cache.find? path = some bytes →
      (start.run (moves ++ more)).cache.find? path = some bytes) ∧
    (∀ call ∈ (start.run moves).calls, call.isServed = true →
      ∃ bytes, (start.run moves).cache.find? call.request.path.absolute = some bytes ∧
        call.Got bytes) ∧
    (∀ first ∈ (start.run moves).calls, ∀ second ∈ (start.run moves).calls,
      first.isServed = true → second.isServed = true →
        first.request.path.absolute = second.request.path.absolute →
          ∃ bytes, first.Got bytes ∧ second.Got bytes) ∧
    (∀ before move after i call, moves = before ++ move :: after → move.call? = some i →
      (start.run moves).calls[i]? = some call → call.isServed = false →
        (start.run (before ++ [move])).cache = (start.run before).cache) := by
  obtain ⟨hsound, reads, hreads⟩ := sound_start.leadsTo_run moves
  have hentries : (start.run moves).cache.entries = reads := by
    rw [hreads.entries]
    exact List.append_nil _
  refine ⟨?_, ?_, ?_, ?_, ?_, ?_⟩
  · rw [hreads.count, Cache.size, hentries]
    exact Nat.zero_add _
  · rw [hentries]
    exact hreads.once
  · intro more path bytes hfound
    rw [run_append]
    obtain ⟨-, reads, hgrown⟩ := hsound.leadsTo_run more
    exact hgrown.find?_of_old hfound
  · intro call hcall hserved
    exact hsound.got_of_isServed hcall hserved
  · intro first hfirst second hsecond hserved hserved' hpath
    obtain ⟨bytes, hfound, hgot⟩ := hsound.got_of_isServed hfirst hserved
    obtain ⟨bytes', hfound', hgot'⟩ := hsound.got_of_isServed hsecond hserved'
    rw [← hpath, hfound, Option.some.injEq] at hfound'
    subst hfound'
    exact ⟨bytes, hgot, hgot'⟩
  · rintro before move after i call rfl hmove hcall hserved
    rw [run_append] at hcall ⊢
    exact (sound_start.leadsTo_run before).1.cache_eq_of_not_served hmove hcall hserved

/-- A disk with the file `/a.js` and nothing else. -/
def onlyFile (text : String) : Disk :=
  Disk.empty.put ⟨.slash, ["a.js".toList]⟩ (.file (Utf8.encode text.toList))

/-- A call is given up while it reads a file that another call waits for. That one reads the file
after it was rewritten, and a third call asks for it after it was removed. -/
def rewritten : List Move :=
  [.ask (.bytes ⟨.slash, ["x".toList, "..".toList, "a.js".toList]⟩),
    .ask (.text ⟨.slash, ["a.js".toList]⟩), .turn 0 (onlyFile "old"), .turn 1 (onlyFile "old"),
    .cancel 0, .turn 1 (onlyFile "new"), .turn 1 (onlyFile "new"),
    .ask (.bytes ⟨.slash, ["y".toList, "..".toList, "a.js".toList]⟩), .turn 2 .empty]

theorem run_kept_rewritten :
    (start.run rewritten).cache.reads = 1 ∧
    (start.run (rewritten.take 5)).cache = (start.run (rewritten.take 4)).cache ∧
    ∃ second third, (start.run rewritten).calls = [⟨.bytes ⟨.slash, ["x".toList, "..".toList,
        "a.js".toList]⟩, .cancelled⟩, second, third] ∧
      ∃ bytes, second.Got bytes ∧ third.Got bytes := by
  have hcalls : (start.run rewritten).calls =
      [⟨.bytes ⟨.slash, ["x".toList, "..".toList, "a.js".toList]⟩, .cancelled⟩,
        ⟨.text ⟨.slash, ["a.js".toList]⟩, .active (.ended (.ok (.text (some "new".toList))))⟩,
        ⟨.bytes ⟨.slash, ["y".toList, "..".toList, "a.js".toList]⟩,
          .active (.ended (.ok (.bytes (some (Utf8.encode "new".toList)))))⟩] := by cbv
  have hsize : (start.run rewritten).cache.size = 1 := by cbv
  obtain ⟨hreads, -, -, -, hsame, hunserved⟩ := run_kept rewritten
  refine ⟨hreads.trans hsize, ?_, _, _, hcalls, ?_⟩
  · exact hunserved _ _ _ 0 _ (rewritten.take_append_drop 4).symm rfl (by rw [hcalls]; rfl) rfl
  · rw [hcalls] at hsame
    exact hsame _ (by simp) _ (by simp) rfl rfl (by cbv)

end Traffic

end Retrace

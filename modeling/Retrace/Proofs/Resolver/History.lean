import Mathlib
import Retrace.Proofs.Pool
import Retrace.Proofs.Reads
import Retrace.Report.Basic

/-!
# Resolvers with a history

Whatever was done over a disk before, and whether it came to its end, failed or ran out of time, the
caches hold nothing but what the disk has. So nobody can tell from the frames of a trace what was
read before, what else was resolved with them, or whose turn it was.

* `Deed`: what is done with a resolver, and `Deed.run`, what is shared after it;
* `Deed.reaches_run`: whatever is done with a resolver is a row of steps over its cache;
* `Workplace.Reached`: the workplaces that hiring resolvers and letting them act leads to;
* `Resolver.alone`: the frame that a resolver without a history makes of a single raw frame.

Main statements: `Workplace.Reached.faithful` and `Resolver.resolveFrames_act_full`.
-/

namespace Retrace

variable {disk : Disk} {s t : Shared} {w : Workplace}

/-- What is done with a resolver. -/
inductive Deed
  | fetch (path : Path)
  | fetchText (path : Path)
  /-- Files are fetched together. -/
  | fetchAll (limit : Nat) (paths : List Path) (course : Course)
  | load (reference : Text) (bundle : Path) (root : Option Path)
  | locate (text : Text) (bundle : Path) (root : Option Path)
  | frame (raw : RawFrame)
  /-- The frames of a stack, of records, or of a list of raw frames are resolved. -/
  | trace (reader : Reader) (course : Course)
  | report (hostVersion : Text) (reporting : Settings) (notice : ErrorNotice) (course : Course)
    (drift : List Nat)

/-- What is shared after something was done with a resolver. -/
def Deed.run (settings : Settings) (disk : Disk) (s : Shared) : Deed → Shared
  | fetch path => ((Script.fetching path).runAlone disk s).1
  | fetchText path => ((fetchingText path).runAlone disk s).1
  | fetchAll limit paths course =>
    ((Pool.start limit s.journal.context (paths.map Script.fetching)).run disk s course).1
  | load reference bundle root => ((SourceMap.load reference bundle root).runAlone disk s).1
  | locate text bundle root => ((SourceMap.locate text bundle root).runAlone disk s).1
  | frame raw => ((resolveFrame settings raw).runAlone disk s).1
  | trace reader course => (resolveReader settings disk s reader course).1
  | report hostVersion reporting notice course drift =>
    (Report.build hostVersion settings reporting disk s notice course drift).1

/-! ### What is done is done in steps -/

theorem Shared.Reaches.noteAll (h : s.Reaches disk t) (events : List Event) :
    s.Reaches disk (t.noteAll events) := h.journal _

theorem Shared.Reaches.surface (h : s.Reaches disk t) (drift : List Nat) :
    s.Reaches disk (t.surface disk drift) := h.journal _

theorem Shared.Reaches.unbindError (h : s.Reaches disk t) : s.Reaches disk t.unbindError :=
  h.journal _

theorem reaches_resolveFrames (disk : Disk) (h : s.taken = []) (settings : Settings)
    (raws : List RawFrame) (course : Course) :
    s.Reaches disk (resolveFrames settings disk s raws course).1 := by
  have hran := (Shared.reaches_note disk s (.traceResolving raws.length)).trans
    (Pool.reaches_run (s := s.note (.traceResolving raws.length)) disk h
      settings.run.maxConcurrent s.journal.context (raws.map (resolveFrame settings)) course)
  rw [resolveFrames]
  split
  · rename_i s' frames heq
    rw [heq] at hran
    exact hran.note _
  · rename_i s' outcome _ heq
    rw [heq] at hran
    exact hran

theorem reaches_resolveReader (disk : Disk) (h : s.taken = []) (settings : Settings)
    (reader : Reader) (course : Course) :
    s.Reaches disk (resolveReader settings disk s reader course).1 := by
  have hnoted := (Shared.Reaches.refl disk s).noteAll reader.events
  unfold resolveReader
  split
  · exact .refl disk s
  · dsimp only
    split
    · exact hnoted.trans
        (reaches_resolveFrames (s := s.noteAll reader.events) disk h settings _ course)
    · exact hnoted

theorem Report.reaches_build (disk : Disk) (h : s.taken = []) (hostVersion : Text)
    (resolving reporting : Settings) (notice : ErrorNotice) (course : Course) (drift : List Nat) :
    s.Reaches disk (build hostVersion resolving reporting disk s notice course drift).1 := by
  have hbegun : s.Reaches disk (s.bindError notice.name) := (Shared.Reaches.refl disk s).journal _
  have hresolved : ∀ course, s.Reaches disk
      ((s.bindError notice.name).within (s.bindError notice.name).journal.context fun s =>
        resolveReader resolving disk s (.ofStack notice.stack) course).1 := fun course =>
    hbegun.trans (Shared.reaches_within _
      (reaches_resolveReader (s := s.bindError notice.name) disk h resolving _ course))
  rw [build]
  -- however the frames end, no more than notes are made after them
  split
  · exact (((hresolved _).surface drift).noteAll _).unbindError.note _
  · exact (((hresolved _).surface drift).noteAll _).unbindError
  · exact (((hresolved _).surface drift).noteAll _).unbindError

/-- Whatever is done with a resolver is a row of steps over its cache. -/
theorem Deed.reaches_run (disk : Disk) (h : s.taken = []) (settings : Settings) (deed : Deed) :
    s.Reaches disk (deed.run settings disk s) := by
  cases deed with
  | fetch path => exact (Script.reaches_runAlone disk h _).1
  | fetchText path => exact (Script.reaches_runAlone disk h _).1
  | fetchAll limit paths course => exact Pool.reaches_run disk h limit _ _ course
  | load reference bundle root => exact (Script.reaches_runAlone disk h _).1
  | locate text bundle root => exact (Script.reaches_runAlone disk h _).1
  | frame raw => exact (Script.reaches_runAlone disk h _).1
  | trace reader course => exact reaches_resolveReader disk h settings reader course
  | report hostVersion reporting notice course drift =>
    exact Report.reaches_build disk h hostVersion settings reporting notice course drift

/-- Whatever is done with a resolver, its cache holds nothing but what the disk has. -/
theorem Deed.faithful_run (h : s.cache.Faithful disk) (htaken : s.taken = [])
    (settings : Settings) (deed : Deed) : (deed.run settings disk s).cache.Faithful disk :=
  (deed.reaches_run disk htaken settings).faithful h

/-! ### Workplaces -/

/-- The workplaces that are reached over a disk that does not change. -/
inductive Workplace.Reached (disk : Disk) : Workplace → Prop
  | empty : Reached disk .empty
  | addCache {w : Workplace} (h : Reached disk w) : Reached disk (w.addCache .empty)
  | hire {w : Workplace} (h : Reached disk w) (settings : Settings) (handed : Option Nat) :
      Reached disk (Resolver.hire settings handed w).2
  | act {w : Workplace} (h : Reached disk w) (resolver : Resolver) (deed : Deed) :
      Reached disk (resolver.act w fun s => (deed.run resolver.settings disk s, ())).1
  /-- A read that was given up comes to its end. -/
  | surface {w : Workplace} (h : Reached disk w) (i : Nat) : Reached disk (w.surface disk i)

theorem Workplace.faithful_cacheAt (h : ∀ cache ∈ w.caches, cache.Faithful disk) (number : Nat) :
    (w.cacheAt number).Faithful disk := by
  rw [cacheAt, List.getD_eq_getElem?_getD]
  cases hcache : w.caches[number]? with
  | none => exact Cache.Faithful.empty disk
  | some cache => exact h cache (List.mem_of_getElem? hcache)

theorem Workplace.faithful_addCache (h : ∀ cache ∈ w.caches, cache.Faithful disk) :
    ∀ cache ∈ (w.addCache .empty).caches, cache.Faithful disk := by
  intro cache hcache
  rcases List.mem_append.1 hcache with hold | hnew
  · exact h cache hold
  · rw [List.mem_singleton.1 hnew]
    exact Cache.Faithful.empty disk

/-- Whatever was done before, the caches hold nothing but what the disk has. -/
theorem Workplace.Reached.faithful (h : w.Reached disk) :
    ∀ cache ∈ w.caches, cache.Faithful disk := by
  induction h with
  | empty => exact fun cache hcache => absurd hcache List.not_mem_nil
  | addCache _ ih => exact faithful_addCache ih
  | hire _ settings handed ih =>
    cases handed with
    | none => exact faithful_addCache ih
    | some number =>
      rw [Resolver.hire]
      split
      · exact ih
      · exact faithful_addCache ih
  | @act w _ resolver deed ih =>
    intro cache hcache
    rcases List.mem_or_eq_of_mem_set hcache with hold | rfl
    · exact ih cache hold
    · exact deed.faithful_run (s := w.desk resolver.cache) (faithful_cacheAt ih resolver.cache) rfl
        resolver.settings
  | surface _ i ih => exact ih

namespace Resolver

/-- The frames of raw frames are what a pool of their scripts comes to. -/
theorem resolveFrames_snd (settings : Settings) (disk : Disk) (s : Shared) (raws : List RawFrame)
    (course : Course) :
    (resolveFrames settings disk s raws course).2 =
      ((Pool.start settings.run.maxConcurrent s.journal.context
        (raws.map (resolveFrame settings))).run disk
          (s.note (.traceResolving raws.length)) course).2 := by
  rw [resolveFrames]
  split
  · rename_i s' frames heq
    rw [heq]
  · rename_i s' outcome _ heq
    rw [heq]

/-- The frame that a resolver without a history makes of a raw frame. -/
def alone (settings : Settings) (disk : Disk) (raw : RawFrame) : Except Failure Frame :=
  let hired := hire settings none .empty
  (hired.1.act hired.2 fun s => (resolveFrame settings raw).runAlone disk s).2

theorem alone_eq_result (settings : Settings) (disk : Disk) (raw : RawFrame) :
    alone settings disk raw = (resolveFrame settings raw).result disk :=
  (Script.runAlone_faithful (s := ⟨.empty, [], .empty⟩) (Cache.Faithful.empty disk) _).1

/-- A trace that gets all the turns it needs has the frames that its raw frames have alone, or ends
in a failure that one of them has alone. -/
theorem act_resolveFrames (h : w.Reached disk) (resolver : Resolver) (raws : List RawFrame)
    (turns : List Nat) :
    ∃ outcome,
      (resolver.act w fun s => resolveFrames resolver.settings disk s raws (.full turns)).2 =
        some outcome ∧
      Gathers (raws.map (alone resolver.settings disk)) outcome := by
  have hresults : (raws.map (resolveFrame resolver.settings)).map (Script.result disk) =
      raws.map (alone resolver.settings disk) := by
    rw [List.map_map]
    exact List.map_congr_left fun raw _ => (alone_eq_result resolver.settings disk raw).symm
  have hcache := Workplace.faithful_cacheAt h.faithful resolver.cache
  obtain ⟨outcome, hran, hends⟩ :=
    Pool.run_full (s := (w.desk resolver.cache).note (.traceResolving raws.length)) hcache
      resolver.settings.run.maxConcurrent (w.desk resolver.cache).journal.context
      (raws.map (resolveFrame resolver.settings)) turns
  rw [hresults] at hends
  exact ⟨outcome, (resolveFrames_snd _ _ _ _ _).trans hran, hends⟩

/-- Frames that are all there leave no failure among what the raw frames come to. -/
theorem not_error_mem {raws : List RawFrame} {settings : Settings} {frames : List Frame}
    (h : raws.map (alone settings disk) = frames.map .ok) (failure : Failure) :
    .error failure ∉ raws.map (alone settings disk) := by
  rw [h]
  intro hmem
  obtain ⟨frame, -, hframe⟩ := List.mem_map.1 hmem
  cases hframe

/-- **Caches and turns leave no trace.** The frames of a trace are the frames that its raw frames
have alone, whatever was done before and however the turns go; and there are no frames only if a raw
frame has none alone. -/
theorem resolveFrames_act_full (h : w.Reached disk) (resolver : Resolver) (raws : List RawFrame)
    (turns : List Nat) :
    ∃ outcome,
      (resolver.act w fun s => resolveFrames resolver.settings disk s raws (.full turns)).2 =
        some outcome ∧
      (∀ frames, outcome = .ok frames ↔
        raws.map (alone resolver.settings disk) = frames.map .ok) ∧
      ∀ failure, outcome = .error failure →
        ∃ raw ∈ raws, alone resolver.settings disk raw = .error failure := by
  obtain ⟨outcome, hran, hends⟩ := act_resolveFrames h resolver raws turns
  refine ⟨outcome, hran, ?_⟩
  cases outcome with
  | ok values =>
    refine ⟨fun frames => ⟨?_, ?_⟩, by rintro _ ⟨⟩⟩
    · rintro ⟨⟩
      exact hends
    · intro hframes
      have hvalues : values = frames :=
        List.map_injective_iff.2 (fun _ _ => Except.ok.inj) (hends.symm.trans hframes)
      rw [hvalues]
  | error failure =>
    refine ⟨fun frames => ⟨by rintro ⟨⟩, fun hframes => ?_⟩, ?_⟩
    · exact absurd hends (not_error_mem hframes failure)
    · rintro _ ⟨⟩
      exact List.mem_map.1 hends

/-- A disk with the file `/a.js`, of two lines. -/
def oneFile : Disk :=
  Disk.empty.put ⟨.slash, ["a.js".toList]⟩ (.file (Utf8.encode "one\ntwo".toList))

/-- A workplace in which a file that is not there was asked for. -/
def usedWorkplace : Workplace :=
  let hired := hire .default none .empty
  let missing := Deed.fetch ⟨.slash, ["b.js".toList]⟩
  (hired.1.act hired.2 fun s => (missing.run .default oneFile s, ())).1

/-- Two frames in one file, under two spellings of its path. -/
theorem resolveFrames_act_full_spellings :
    ((⟨.default, 0⟩ : Resolver).act usedWorkplace fun s =>
      resolveFrames .default oneFile s
        [⟨"f".toList, "/a.js".toList, some 1, none, false⟩,
          ⟨"g".toList, "/x/../a.js".toList, some 2, some 3, false⟩] (.full [1, 0, 1])).2 =
      some (.ok
        [⟨"f".toList, "/a.js".toList, some 1, none, "one\ntwo".toList, some 0, some 2, false⟩,
          ⟨"g".toList, "/x/../a.js".toList, some 2, some 3, "one\ntwo".toList, some 0, some 2,
            false⟩]) := by
  have hreached : usedWorkplace.Reached oneFile := .act (.hire .empty .default none) _ _
  obtain ⟨outcome, hran, hok, -⟩ := resolveFrames_act_full hreached ⟨.default, 0⟩
    [⟨"f".toList, "/a.js".toList, some 1, none, false⟩,
      ⟨"g".toList, "/x/../a.js".toList, some 2, some 3, false⟩] [1, 0, 1]
  refine hran.trans (congrArg some ((hok _).2 ?_))
  cbv

end Resolver

end Retrace

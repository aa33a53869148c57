import Mathlib.Data.List.Nodup
import Mathlib.Data.List.Perm.Basic
import Retrace.Pool.Course
import Retrace.Proofs.Script

/-!
# Reads

What happens to a shared cache, step by step. A path is taken for reading only if it is neither in
the cache nor taken by somebody else, a file is read only under a taken path, and what the disk
delivers is stored. So no file is read twice, however the turns of a pool go. A read that is given
up delivers nothing.

* `Disk.delivered`: what a read delivers;
* `Shared.Moves`: the steps from one shared state to another, with all that was delivered;
* `Shared.Orderly`: the invariant of shared states;
* `Cache.Grown`: a cache that has stored and counted all that was delivered;
* `Pool.Tidy`: the taken paths are those that the jobs of a pool are reading.

Main statements: `Shared.Moves.grown`, `Shared.Reaches.faithful` and `Pool.reaches_run`.
-/

namespace Retrace

variable {ε α : Type} {disk : Disk} {s t u : Shared} {path : Path}

/-! ### Steps -/

/-- What a read under a path delivers: the file and its bytes, if there is one. -/
def Disk.delivered (disk : Disk) (path : Path) : List (Path × Bytes) :=
  match disk.read path with
  | .content bytes => [(path, bytes)]
  | _ => []

namespace Shared

/-- The steps from one shared state to another, with what the disk delivered, newest first. -/
inductive Moves (disk : Disk) (s : Shared) : List (Path × Bytes) → Shared → Prop
  | refl : Moves disk s [] s
  /-- Something is noted, or somebody else is at work. -/
  | journal {reads : List (Path × Bytes)} {t : Shared} (h : Moves disk s reads t)
      (journal : Journal) : Moves disk s reads ⟨t.cache, t.taken, journal⟩
  /-- A path that is neither in the cache nor taken is taken. -/
  | start {reads : List (Path × Bytes)} {t : Shared} {path : Path} (h : Moves disk s reads t)
      (hfound : t.cache.find? path = none) (hfree : path ∉ t.taken) :
    Moves disk s reads (t.startRead path)
  /-- A read is given up. -/
  | release {reads : List (Path × Bytes)} {t : Shared} (h : Moves disk s reads t) (path : Path) :
    Moves disk s reads (t.release path)
  /-- A read comes to its end. -/
  | finish {reads : List (Path × Bytes)} {t : Shared} {path : Path} (h : Moves disk s reads t)
      (htaken : path ∈ t.taken) (context : Json.Fields) :
    Moves disk s (disk.delivered path ++ reads) (t.finishRead disk path context).1

theorem Moves.trans {reads more : List (Path × Bytes)} (h : s.Moves disk reads t)
    (hnext : t.Moves disk more u) : s.Moves disk (more ++ reads) u := by
  induction hnext with
  | refl => exact h
  | journal _ journal ih => exact ih.journal journal
  | start _ hfound hfree ih => exact ih.start hfound hfree
  | release _ path ih => exact ih.release path
  | finish _ htaken context ih =>
    rw [List.append_assoc]
    exact ih.finish htaken context

/-- Whether there are steps from one shared state to another. -/
def Reaches (disk : Disk) (s t : Shared) : Prop := ∃ reads, s.Moves disk reads t

theorem Reaches.refl (disk : Disk) (s : Shared) : s.Reaches disk s := ⟨[], .refl⟩

theorem Reaches.trans (h : s.Reaches disk t) (hnext : t.Reaches disk u) : s.Reaches disk u := by
  obtain ⟨reads, hreads⟩ := h
  obtain ⟨more, hmore⟩ := hnext
  exact ⟨_, hreads.trans hmore⟩

theorem Reaches.journal (h : s.Reaches disk t) (journal : Journal) :
    s.Reaches disk ⟨t.cache, t.taken, journal⟩ := by
  obtain ⟨reads, hreads⟩ := h
  exact ⟨reads, hreads.journal journal⟩

theorem Reaches.note (h : s.Reaches disk t) (event : Event) : s.Reaches disk (t.note event) :=
  h.journal _

theorem reaches_note (disk : Disk) (s : Shared) (event : Event) :
    s.Reaches disk (s.note event) := (Reaches.refl disk s).note event

theorem reaches_startRead (disk : Disk) (hfound : s.cache.find? path = none)
    (hfree : path ∉ s.taken) : s.Reaches disk (s.startRead path) :=
  ⟨[], Moves.refl.start hfound hfree⟩

theorem reaches_finishRead (disk : Disk) (htaken : path ∈ s.taken) (context : Json.Fields) :
    s.Reaches disk (s.finishRead disk path context).1 := ⟨_, Moves.refl.finish htaken context⟩

theorem reaches_strandRead (disk : Disk) (s : Shared) (path : Path) (context : Json.Fields) :
    s.Reaches disk (s.strandRead path context) := ⟨[], (Moves.refl.release path).journal _⟩

/-- Work in a row of its own is done in the same steps. -/
theorem reaches_within {β : Type} {context : Json.Fields} (work : Shared → Shared × β)
    (h : (s.enter context).Reaches disk (work (s.enter context)).1) :
    s.Reaches disk (s.within context work).1 :=
  (((Reaches.refl disk s).journal _).trans h).journal _

/-- Nothing but what the disk has comes into the cache. -/
theorem Reaches.faithful (h : s.Reaches disk t) (hs : s.cache.Faithful disk) :
    t.cache.Faithful disk := by
  obtain ⟨reads, hmoves⟩ := h
  induction hmoves with
  | refl => exact hs
  | journal _ _ ih => exact ih
  | start _ _ _ ih => exact ih
  | release _ _ ih => exact ih
  | finish _ _ context ih => exact faithful_finishRead ih _ context

theorem taken_finishRead (disk : Disk) (s : Shared) (path : Path) (context : Json.Fields) :
    (s.finishRead disk path context).1.taken = s.taken.erase path := by
  unfold finishRead
  cases disk.read path <;> rfl

end Shared

/-! ### What is stored -/

namespace Cache

theorem find?_eq_none {cache : Cache} :
    cache.find? path = none ↔ path ∉ cache.entries.map Prod.fst := by
  rw [find?, Option.map_eq_none_iff, List.find?_eq_none, List.mem_map]
  constructor
  · rintro h ⟨entry, hentry, heq⟩
    exact h entry hentry (decide_eq_true heq)
  · intro h entry hentry heq
    exact h ⟨entry, hentry, of_decide_eq_true heq⟩

/-- Whether a cache has stored and counted reads since it was an old one: each of a path that was
not there before, and none of them twice. -/
structure Grown (old : Cache) (reads : List (Path × Bytes)) (new : Cache) : Prop where
  entries : new.entries = reads ++ old.entries
  count : new.reads = old.reads + reads.length
  once : (reads.map Prod.fst).Nodup
  fresh : ∀ read ∈ reads, old.find? read.1 = none

namespace Grown

variable {old middle new : Cache} {reads more : List (Path × Bytes)}

theorem refl (cache : Cache) : cache.Grown [] cache where
  entries := rfl
  count := rfl
  once := List.nodup_nil
  fresh := nofun

theorem trans (h : old.Grown reads middle) (hnext : middle.Grown more new) :
    old.Grown (more ++ reads) new where
  entries := by rw [hnext.entries, h.entries, List.append_assoc]
  count := by
    rw [hnext.count, h.count, List.length_append]
    omega
  once := by
    rw [List.map_append, List.nodup_append']
    refine ⟨hnext.once, h.once, ?_⟩
    -- what was read first is in the cache when the rest is read
    intro path hmore hreads
    obtain ⟨read, hread, rfl⟩ := List.mem_map.1 hmore
    have hnone := find?_eq_none.1 (hnext.fresh read hread)
    rw [h.entries, List.map_append] at hnone
    exact hnone (List.mem_append_left _ hreads)
  fresh := by
    intro read hread
    rcases List.mem_append.1 hread with hmore | hreads
    · have hnone := find?_eq_none.1 (hnext.fresh read hmore)
      rw [h.entries, List.map_append] at hnone
      exact find?_eq_none.2 fun hold => hnone (List.mem_append_right _ hold)
    · exact h.fresh read hreads

/-- What was in the cache before stays there. -/
theorem find?_of_old (h : old.Grown reads new) {bytes : Bytes}
    (hfound : old.find? path = some bytes) : new.find? path = some bytes := by
  have hreads : reads.find? (fun read => read.1 = path) = none := by
    rw [List.find?_eq_none]
    intro read hread heq
    have hfresh := h.fresh read hread
    rw [of_decide_eq_true heq, hfound] at hfresh
    cases hfresh
  rw [find?] at hfound ⊢
  rw [h.entries, List.find?_append, hreads, Option.none_or]
  exact hfound

theorem size_le (h : old.Grown reads new) : old.size ≤ new.size := by
  rw [size, size, h.entries, List.length_append]
  omega

end Grown

end Cache

namespace Shared

/-- Whether no path is taken twice, and none that is in the cache. -/
structure Orderly (s : Shared) : Prop where
  nodup : s.taken.Nodup
  missing : ∀ path ∈ s.taken, s.cache.find? path = none

theorem grown_finishRead (disk : Disk) (h : s.cache.find? path = none) (context : Json.Fields) :
    s.cache.Grown (disk.delivered path) (s.finishRead disk path context).1.cache := by
  unfold finishRead Disk.delivered
  cases disk.read path with
  | content bytes =>
    refine ⟨rfl, rfl, List.nodup_singleton _, ?_⟩
    intro read hread
    rw [List.mem_singleton.1 hread]
    exact h
  | absent => exact .refl _
  | notFile => exact .refl _
  | refused access errno => exact .refl _
  | nullByte => exact .refl _

theorem Orderly.finishRead (h : s.Orderly) (disk : Disk) (path : Path) (context : Json.Fields) :
    (s.finishRead disk path context).1.Orderly where
  nodup := by
    rw [taken_finishRead]
    exact h.nodup.erase path
  missing := by
    intro other hother
    rw [taken_finishRead, h.nodup.mem_erase_iff] at hother
    have hmissing := h.missing other hother.2
    unfold Shared.finishRead
    cases disk.read path with
    | content bytes => exact (Cache.find?_store_of_ne _ hother.1.symm bytes).trans hmissing
    | absent => exact hmissing
    | notFile => exact hmissing
    | refused access errno => exact hmissing
    | nullByte => exact hmissing

/-- **No file is read twice.** Steps from an orderly state lead to an orderly state, and the cache
has stored and counted exactly what the disk delivered. -/
theorem Moves.grown {reads : List (Path × Bytes)} (h : s.Moves disk reads t) (hs : s.Orderly) :
    t.Orderly ∧ s.cache.Grown reads t.cache := by
  induction h with
  | refl => exact ⟨hs, .refl _⟩
  | journal _ journal ih => exact ⟨⟨ih.1.nodup, ih.1.missing⟩, ih.2⟩
  | start _ hfound hfree ih =>
    exact ⟨⟨List.nodup_cons.2 ⟨hfree, ih.1.nodup⟩, List.forall_mem_cons.2 ⟨hfound, ih.1.missing⟩⟩,
      ih.2⟩
  | release _ path ih =>
    exact ⟨⟨ih.1.nodup.erase path, fun other hother =>
      ih.1.missing other (List.mem_of_mem_erase hother)⟩, ih.2⟩
  | finish _ htaken context ih =>
    -- a path that is taken is not in the cache, so this is its first read
    exact ⟨ih.1.finishRead disk _ context,
      ih.2.trans (grown_finishRead disk (ih.1.missing _ htaken) context)⟩

end Shared

/-! ### Scripts and tasks -/

theorem Script.reaches_runAlone (disk : Disk) (h : s.taken = []) (script : Script ε α) :
    s.Reaches disk (script.runAlone disk s).1 ∧ (script.runAlone disk s).1.taken = [] := by
  induction script generalizing s with
  | done result => exact ⟨.refl disk s, h⟩
  | note event next ih =>
    obtain ⟨hreaches, htaken⟩ := ih (s := s.note event) h
    exact ⟨(Shared.reaches_note disk s event).trans hreaches, htaken⟩
  | pause next ih => exact ih h
  | fetch path next ih =>
    rw [runAlone]
    cases hfound : s.cache.find? path.absolute with
    | some bytes =>
      obtain ⟨hreaches, htaken⟩ := ih _ (s := s.note (.cacheHit path.absolute)) h
      exact ⟨(Shared.reaches_note disk s _).trans hreaches, htaken⟩
    | none =>
      -- nobody else is at work, so the path is free before the read, and free again after it
      have hstart : s.Reaches disk (s.startRead path.absolute) :=
        Shared.reaches_startRead disk hfound (by simp [h])
      have hmem : path.absolute ∈ (s.startRead path.absolute).taken := List.mem_cons_self
      have hfinish := Shared.reaches_finishRead disk hmem s.journal.context
      have hfree : ((s.startRead path.absolute).finishRead disk path.absolute
          s.journal.context).1.taken = [] := by
        rw [Shared.taken_finishRead, Shared.startRead, List.erase_cons_head, h]
      obtain ⟨hreaches, htaken⟩ := ih _ hfree
      exact ⟨(hstart.trans hfinish).trans hreaches, htaken⟩

/-- The path that a task is reading. -/
def Task.reading? : Task ε α → Option Path
  | .reading path .. => some path
  | _ => none

theorem Script.reaches_advance (disk : Disk) (s : Shared) (script : Script ε α) :
    s.Reaches disk (script.advance s).1 ∧
      (script.advance s).1.taken = (script.advance s).2.reading?.toList ++ s.taken := by
  induction script generalizing s with
  | done result => exact ⟨.refl disk s, rfl⟩
  | note event next ih =>
    obtain ⟨hreaches, htaken⟩ := ih (s.note event)
    exact ⟨(Shared.reaches_note disk s event).trans hreaches, htaken⟩
  | pause next ih => exact ⟨.refl disk s, rfl⟩
  | fetch path next ih =>
    rw [advance]
    cases hfound : s.cache.find? path.absolute with
    | some bytes =>
      obtain ⟨hreaches, htaken⟩ := ih _ (s.note (.cacheHit path.absolute))
      exact ⟨(Shared.reaches_note disk s _).trans hreaches, htaken⟩
    | none =>
      dsimp only
      by_cases htaken : path.absolute ∈ s.taken
      · rw [if_pos htaken]
        exact ⟨.refl disk s, rfl⟩
      · rw [if_neg htaken]
        exact ⟨Shared.reaches_startRead disk hfound htaken, rfl⟩

namespace Task

variable {task : Task ε α} {others : List Path}

/-- The end of a read gives its path free and no other. -/
theorem perm_taken_finishRead (disk : Disk) (h : s.taken.Perm (path :: others))
    (context : Json.Fields) : (s.finishRead disk path context).1.taken.Perm others := by
  rw [Shared.taken_finishRead]
  have herase := h.erase path
  rwa [List.erase_cons_head] at herase

/-- A turn of a task takes and gives free no path but its own. -/
theorem reaches_turn (disk : Disk) (h : s.taken.Perm (task.reading?.toList ++ others)) :
    s.Reaches disk (task.turn disk s).1 ∧
      (task.turn disk s).1.taken.Perm ((task.turn disk s).2.reading?.toList ++ others) := by
  cases task with
  | ready script =>
    obtain ⟨hreaches, htaken⟩ := Script.reaches_advance disk s script
    refine ⟨hreaches, ?_⟩
    rw [turn, htaken]
    exact h.append_left _
  | queued path next =>
    rw [turn]
    by_cases htaken : path ∈ s.taken
    · rw [if_pos htaken]
      exact ⟨.refl disk s, h⟩
    · rw [if_neg htaken]
      cases hfound : s.cache.find? path with
      | some bytes =>
        obtain ⟨hreaches, hadvance⟩ :=
          Script.reaches_advance disk (s.note (.cacheHit path)) (next (.ok (some bytes)))
        refine ⟨(Shared.reaches_note disk s _).trans hreaches, ?_⟩
        dsimp only
        rw [hadvance]
        exact h.append_left _
      | none => exact ⟨Shared.reaches_startRead disk hfound htaken, h.cons path⟩
  | reading path context next =>
    have hmem : path ∈ s.taken := h.mem_iff.2 List.mem_cons_self
    obtain ⟨hreaches, htaken⟩ := Script.reaches_advance disk (s.finishRead disk path context).1
      (next (s.finishRead disk path context).2)
    refine ⟨(Shared.reaches_finishRead disk hmem context).trans hreaches, ?_⟩
    rw [turn, htaken]
    exact (perm_taken_finishRead disk h context).append_left _
  | ended outcome => exact ⟨.refl disk s, h⟩

theorem reaches_land (disk : Disk) (h : s.taken.Perm (task.reading?.toList ++ others)) :
    s.Reaches disk (task.land disk s).1 ∧ (task.land disk s).1.taken.Perm others := by
  cases task with
  | reading path context next =>
    have hmem : path ∈ s.taken := h.mem_iff.2 List.mem_cons_self
    exact ⟨Shared.reaches_finishRead disk hmem context, perm_taken_finishRead disk h context⟩
  | ready script => exact ⟨.refl disk s, h⟩
  | queued path next => exact ⟨.refl disk s, h⟩
  | ended outcome => exact ⟨.refl disk s, h⟩

/-- A task that is given up gives its path free and no other. -/
theorem perm_taken_drop (h : s.taken.Perm (task.reading?.toList ++ others)) :
    (task.drop s).taken.Perm others := by
  cases task with
  | reading path context next => exact (List.cons_perm_iff_perm_erase.1 h.symm).2.symm
  | ready script => exact h
  | queued path next => exact h
  | ended outcome => exact h

theorem reaches_drop (disk : Disk) (s : Shared) (task : Task ε α) :
    s.Reaches disk (task.drop s) := by
  cases task with
  | reading path context next => exact Shared.reaches_strandRead disk s path context
  | ready script => exact .refl disk s
  | queued path next => exact .refl disk s
  | ended outcome => exact .refl disk s

end Task

/-! ### Pools -/

/-- The path that a job is reading. -/
def Job.reading? : Job ε α → Option Path
  | .running _ task => task.reading?
  | _ => none

theorem Job.reaches_foldl_release (disk : Disk) (s : Shared) (jobs : List (Job ε α)) :
    s.Reaches disk (jobs.foldl Job.release s) := by
  induction jobs generalizing s with
  | nil => exact .refl disk s
  | cons job rest ih =>
    cases job with
    | running context task => exact (task.reaches_drop disk s).trans (ih _)
    | waiting context script => exact ih s
    | finished value => exact ih s
    | dropped => exact ih s

theorem filterMap_cons_eq {β γ : Type} (f : β → Option γ) (b : β) (items : List β) :
    (b :: items).filterMap f = (f b).toList ++ items.filterMap f := by
  rw [List.filterMap_cons]
  cases f b <;> rfl

/-- What is kept of a list is, up to order, what is kept of one item and of the others, and so it is
when this item is replaced. -/
theorem exists_perm_filterMap_set {β γ : Type} (f : β → Option γ) {items : List β} {i : Nat} {b : β}
    (h : items[i]? = some b) :
    ∃ others, (items.filterMap f).Perm ((f b).toList ++ others) ∧
      ∀ c, ((items.set i c).filterMap f).Perm ((f c).toList ++ others) := by
  induction items generalizing i with
  | nil => cases h
  | cons first rest ih =>
    cases i with
    | zero =>
      rw [List.getElem?_cons_zero, Option.some.injEq] at h
      subst h
      refine ⟨rest.filterMap f, ?_, fun c => ?_⟩
      · rw [filterMap_cons_eq]
      · rw [List.set_cons_zero, filterMap_cons_eq]
    | succ i =>
      obtain ⟨others, hitems, hset⟩ := ih h
      refine ⟨(f first).toList ++ others, ?_, fun c => ?_⟩
      · rw [filterMap_cons_eq]
        exact (hitems.append_left _).trans (List.perm_append_comm_assoc _ _ _)
      · rw [List.set_cons_succ, filterMap_cons_eq]
        exact ((hset c).append_left _).trans (List.perm_append_comm_assoc _ _ _)

namespace Pool

variable {pool : Pool ε α}

/-- Whether the taken paths are those that the jobs of a pool are reading, unless it failed. -/
def Tidy (s : Shared) (pool : Pool ε α) : Prop :=
  pool.failure = none → s.taken.Perm (pool.jobs.filterMap Job.reading?)

theorem tidy_start (h : s.taken = []) (limit : Nat) (context : Json.Fields)
    (scripts : List (Script ε α)) : (start limit context scripts).Tidy s := by
  intro _
  have hnone : (start limit context scripts).jobs.filterMap Job.reading? = [] := by
    simp [start, Job.reading?]
  rw [h, hnone]

/-- A job that has come to a task leaves the pool tidy. -/
theorem reaches_place (disk : Disk) {i : Nat} (context : Json.Fields) (next : Shared × Task ε α)
    {others : List Path}
    (hset : ∀ job, ((pool.jobs.set i job).filterMap Job.reading?).Perm
      (job.reading?.toList ++ others))
    (h : next.1.taken.Perm (next.2.reading?.toList ++ others)) :
    next.1.Reaches disk (pool.place i context next).1 ∧
      (pool.place i context next).2.Tidy (pool.place i context next).1 := by
  obtain ⟨s, task⟩ := next
  cases task with
  | ended outcome =>
    cases outcome with
    | ok value => exact ⟨.refl disk s, fun _ => h.trans (hset (.finished value)).symm⟩
    | error failure =>
      -- the pool has failed, and all reads under way are given up
      exact ⟨Job.reaches_foldl_release disk s _, nofun⟩
  | ready script =>
    exact ⟨.refl disk s, fun _ => h.trans (hset (.running context (.ready script))).symm⟩
  | queued path rest =>
    exact ⟨.refl disk s, fun _ => h.trans (hset (.running context (.queued path rest))).symm⟩
  | reading path row rest =>
    exact ⟨.refl disk s, fun _ => h.trans (hset (.running context (.reading path row rest))).symm⟩

theorem reaches_turn (h : pool.Tidy s) (disk : Disk) (i : Nat) :
    s.Reaches disk (pool.turn disk s i).1 ∧ (pool.turn disk s i).2.Tidy (pool.turn disk s i).1 := by
  rw [turn]
  cases hfailure : pool.failure with
  | some failure => exact ⟨.refl disk s, h⟩
  | none =>
    rw [Option.isSome_none, if_neg Bool.false_ne_true]
    cases hjob : pool.jobs[i]? with
    | none => exact ⟨.refl disk s, h⟩
    | some job =>
      obtain ⟨others, hjobs, hset⟩ := exists_perm_filterMap_set Job.reading? hjob
      have htaken := (h hfailure).trans hjobs
      cases job with
      | finished value => exact ⟨.refl disk s, h⟩
      | dropped => exact ⟨.refl disk s, h⟩
      | running context task =>
        obtain ⟨hturn, hnext⟩ := Task.reaches_turn (s := s.enter context) disk htaken
        obtain ⟨hplace, htidy⟩ :=
          reaches_place disk context (s.within context fun s => task.turn disk s) hset hnext
        exact ⟨(Shared.reaches_within _ hturn).trans hplace, htidy⟩
      | waiting context script =>
        dsimp only
        split
        · obtain ⟨hadvance, hnext⟩ := Script.reaches_advance disk (s.enter context) script
          have hset' : ∀ job, (((pool.setJob i (.running context (.ready script))).jobs.set i
              job).filterMap Job.reading?).Perm (job.reading?.toList ++ others) := by
            intro job
            rw [setJob, List.set_set]
            exact hset job
          obtain ⟨hplace, htidy⟩ := reaches_place disk context
            (s.within context fun s => script.advance s) hset' (hnext ▸ htaken.append_left _)
          exact ⟨(Shared.reaches_within _ hadvance).trans hplace, htidy⟩
        · exact ⟨.refl disk s, h⟩

theorem reaches_turns (h : pool.Tidy s) (disk : Disk) (course : List Nat) :
    s.Reaches disk (pool.turns disk s course).1 ∧
      (pool.turns disk s course).2.Tidy (pool.turns disk s course).1 := by
  induction course generalizing s pool with
  | nil => exact ⟨.refl disk s, h⟩
  | cons i rest ih =>
    obtain ⟨hturn, htidy⟩ := reaches_turn h disk i
    obtain ⟨hrest, hend⟩ := ih htidy
    exact ⟨hturn.trans hrest, hend⟩

/-- No path is taken any more when all reads have come to their end. -/
theorem reaches_landAll (disk : Disk) {jobs : List (Job ε α)}
    (h : s.taken.Perm (jobs.filterMap Job.reading?)) :
    s.Reaches disk (landAll disk s jobs).1 ∧ (landAll disk s jobs).1.taken = [] := by
  induction jobs generalizing s with
  | nil => exact ⟨.refl disk s, h.eq_nil⟩
  | cons job rest ih =>
    cases job with
    | running context task =>
      rw [filterMap_cons_eq] at h
      obtain ⟨hland, hothers⟩ := Task.reaches_land (s := s.enter context) disk h
      obtain ⟨hrest, htaken⟩ := ih (s := (s.within context fun s => task.land disk s).1) hothers
      exact ⟨(Shared.reaches_within _ hland).trans hrest, htaken⟩
    | waiting context script => exact ih h
    | finished value => exact ih h
    | dropped => exact ih h

theorem reaches_finishEach (disk : Disk) (left? : Job ε α → Option (Json.Fields × Script ε α))
    (h : s.taken = []) (jobs : List (Job ε α)) :
    s.Reaches disk (finishEach disk left? s jobs).1 ∧
      (finishEach disk left? s jobs).1.taken = [] := by
  induction jobs generalizing s with
  | nil => exact ⟨.refl disk s, h⟩
  | cons job rest ih =>
    rw [finishEach]
    cases left? job with
    | none => exact ih h
    | some left =>
      obtain ⟨context, script⟩ := left
      obtain ⟨hran, htaken⟩ := Script.reaches_runAlone (s := s.enter context) disk h script
      have halone := Shared.reaches_within (fun s => script.runAlone disk s) hran
      have htaken : (s.within context fun s => script.runAlone disk s).1.taken = [] := htaken
      dsimp only
      split
      · rename_i s' failure heq
        rw [heq] at halone htaken
        exact ⟨halone, htaken⟩
      · rename_i s' value heq
        rw [heq] at halone htaken
        obtain ⟨hrest, hend⟩ := ih htaken
        exact ⟨halone.trans hrest, hend⟩

theorem reaches_settle (h : pool.Tidy s) (disk : Disk) :
    s.Reaches disk (pool.settle disk s).1 := by
  rw [settle]
  cases hfailure : pool.failure with
  | some failure => exact .refl disk s
  | none =>
    rw [Option.isSome_none, if_neg Bool.false_ne_true]
    obtain ⟨hland, hlanded⟩ := reaches_landAll disk (h hfailure)
    obtain ⟨hbegun, hended⟩ := reaches_finishEach disk Job.begun? hlanded
      (landAll disk s pool.jobs).2
    dsimp only
    split
    · rename_i s' failure heq
      rw [heq] at hbegun
      exact hland.trans hbegun
    · rename_i s' jobs heq
      rw [heq] at hbegun hended
      have hfresh := (reaches_finishEach disk Job.fresh? hended jobs).1
      split
      · rename_i s'' failure heq'
        rw [heq'] at hfresh
        exact (hland.trans hbegun).trans hfresh
      · rename_i s'' jobs' heq'
        rw [heq'] at hfresh
        exact (hland.trans hbegun).trans hfresh

/-- Whatever the course of a pool, all that happens to the cache are steps. -/
theorem reaches_run (disk : Disk) (h : s.taken = []) (limit : Nat) (context : Json.Fields)
    (scripts : List (Script ε α)) (course : Course) :
    s.Reaches disk ((start limit context scripts).run disk s course).1 := by
  cases course with
  | untouched => exact .refl disk s
  | cut turns =>
    have hturns := (reaches_turns (tidy_start h limit context scripts) disk turns).1
    rw [run]
    split
    · exact hturns
    · exact hturns.trans (Job.reaches_foldl_release disk _ _)
  | full turns =>
    obtain ⟨hturns, htidy⟩ := reaches_turns (tidy_start h limit context scripts) disk turns
    exact hturns.trans (reaches_settle htidy disk)

end Pool

end Retrace

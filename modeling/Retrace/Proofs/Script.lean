import Retrace.Cache
import Retrace.Proofs.Disk
import Retrace.Proofs.Outcome

/-!
# What a script comes to

A script that reads every file from the disk itself has one result, whoever else is at work, and it
asks for certain files. A cache is faithful to a disk if it holds nothing but what the disk has; a
script that is run over a cache that is faithful where the script asks comes to that result and adds
to the cache what the disk has there.

* `Script.result`: what a script comes to by the disk alone, with its laws for one script after
  another;
* `Script.asked`: the paths that it asks for by the disk alone;
* `Cache.Faithful`: the invariant of caches over a disk that does not change;
* `Cache.Grows`: a cache to which the files at some paths are added.

Main statements: `runAlone_asked` and `runAlone_faithful`.
-/

namespace Retrace

namespace Script

variable {ε ζ α β : Type}

/-- What a script comes to if it reads every file from the disk. -/
def result (disk : Disk) : Script ε α → Except ε α
  | done result => result
  | note _ next => next.result disk
  | pause next => next.result disk
  | fetch path next => (next (disk.fetched path.absolute)).result disk

theorem result_andThen (disk : Disk) (script : Script ε α) (next : Except ε α → Script ζ β) :
    (script.andThen next).result disk = (next (script.result disk)).result disk := by
  induction script with
  | done result => rfl
  | note event rest ih => exact ih
  | pause rest ih => exact ih
  | fetch path rest ih => exact ih _

@[simp] theorem result_bind (disk : Disk) (script : Script ε α) (next : α → Script ε β) :
    (script >>= next).result disk = script.result disk >>= fun a => (next a).result disk := by
  rw [show script >>= next = script.bind next from rfl, bind, result_andThen]
  cases script.result disk <;> rfl

@[simp] theorem result_pure (disk : Disk) (a : α) : (pure a : Script ε α).result disk = .ok a := rfl

@[simp] theorem result_ofExcept (disk : Disk) (outcome : Except ε α) :
    (ofExcept outcome).result disk = outcome := rfl

@[simp] theorem result_noting (disk : Disk) (event : Event) :
    (noting event : Script ε Unit).result disk = .ok () := rfl

@[simp] theorem result_notingAll (disk : Disk) (events : List Event) :
    (notingAll events : Script ε Unit).result disk = .ok () := by
  induction events with
  | nil => rfl
  | cons event rest ih => exact ih

@[simp] theorem result_fetching (disk : Disk) (path : Path) :
    (fetching path).result disk = (disk.fetched path.absolute).mapError .ofFile := rfl

/-- The absolute paths of the files that a script asks for, if it reads every file from the disk. -/
def asked (disk : Disk) : Script ε α → List Path
  | done _ => []
  | note _ next => next.asked disk
  | pause next => next.asked disk
  | fetch path next => path.absolute :: (next (disk.fetched path.absolute)).asked disk

theorem asked_andThen (disk : Disk) (script : Script ε α) (next : Except ε α → Script ζ β) :
    (script.andThen next).asked disk =
      script.asked disk ++ (next (script.result disk)).asked disk := by
  induction script with
  | done result => rfl
  | note event rest ih => exact ih
  | pause rest ih => exact ih
  | fetch path rest ih => exact congrArg (path.absolute :: ·) (ih _)

/-- The second of two scripts asks for files only where the first comes to a value. -/
theorem mem_asked_bind {disk : Disk} {path : Path} {script : Script ε α} {next : α → Script ε β} :
    path ∈ (script >>= next).asked disk ↔
      path ∈ script.asked disk ∨
        ∃ a, script.result disk = .ok a ∧ path ∈ (next a).asked disk := by
  rw [show script >>= next = script.bind next from rfl, bind, asked_andThen, List.mem_append]
  refine or_congr_right ?_
  cases script.result disk with
  | ok a => simp
  | error failure => simp [asked]

@[simp] theorem asked_pure (disk : Disk) (a : α) : (pure a : Script ε α).asked disk = [] := rfl

@[simp] theorem asked_ofExcept (disk : Disk) (outcome : Except ε α) :
    (ofExcept outcome).asked disk = [] := rfl

@[simp] theorem asked_noting (disk : Disk) (event : Event) :
    (noting event : Script ε Unit).asked disk = [] := rfl

@[simp] theorem asked_notingAll (disk : Disk) (events : List Event) :
    (notingAll events : Script ε Unit).asked disk = [] := by
  induction events with
  | nil => rfl
  | cons event rest ih => exact ih

@[simp] theorem asked_fetching (disk : Disk) (path : Path) :
    (fetching path).asked disk = [path.absolute] := rfl

end Script

/-- Whether a cache has nothing else at some paths than a disk. -/
def Cache.FaithfulAt (disk : Disk) (paths : List Path) (cache : Cache) : Prop :=
  ∀ path ∈ paths, ∀ bytes, cache.find? path = some bytes → disk.read path = .content bytes

/-- Whether a cache holds nothing but what a disk has. -/
def Cache.Faithful (disk : Disk) (cache : Cache) : Prop :=
  ∀ path bytes, cache.find? path = some bytes → disk.read path = .content bytes

/-- Whether a cache has, besides what another has, the files of a disk at some paths. -/
def Cache.Grows (disk : Disk) (paths : List Path) (before after : Cache) : Prop :=
  ∀ path bytes, after.find? path = some bytes ↔
    before.find? path = some bytes ∨ path ∈ paths ∧ disk.read path = .content bytes

namespace Cache

variable {disk : Disk} {cache before after : Cache} {path : Path} {paths : List Path}
  {bytes : Bytes}

theorem FaithfulAt.store (h : cache.FaithfulAt disk paths)
    (hread : disk.read path = .content bytes) :
    (cache.store path bytes).FaithfulAt disk paths := by
  intro other hmem found hfound
  by_cases heq : path = other
  · subst heq
    rw [find?_store_self, Option.some.injEq] at hfound
    rw [hread, hfound]
  · rw [find?_store_of_ne cache heq] at hfound
    exact h other hmem found hfound

namespace Faithful

theorem empty (disk : Disk) : Cache.empty.Faithful disk := fun path bytes h => by
  simp [Cache.empty, find?] at h

theorem faithfulAt (h : cache.Faithful disk) (paths : List Path) : cache.FaithfulAt disk paths :=
  fun path _ => h path

theorem store (h : cache.Faithful disk) (hread : disk.read path = .content bytes) :
    (cache.store path bytes).Faithful disk :=
  fun other found => (h.faithfulAt [other]).store hread other List.mem_cons_self found

theorem fetched_of_find? (h : cache.Faithful disk) (hfound : cache.find? path = some bytes) :
    disk.fetched path = .ok (some bytes) := by
  rw [Disk.fetched, h path bytes hfound]

end Faithful

theorem grows_nil (disk : Disk) (cache : Cache) : cache.Grows disk [] cache := by
  simp [Grows]

/-- A path at which nothing new is read adds nothing. -/
theorem Grows.cons_of_old (h : before.Grows disk paths after)
    (hold : ∀ bytes, disk.read path = .content bytes → before.find? path = some bytes) :
    before.Grows disk (path :: paths) after := by
  intro other bytes
  rw [h other bytes, List.mem_cons]
  constructor
  · rintro (hfound | ⟨hmem, hread⟩)
    · exact .inl hfound
    · exact .inr ⟨.inr hmem, hread⟩
  · rintro (hfound | ⟨rfl | hmem, hread⟩)
    · exact .inl hfound
    · exact .inl (hold bytes hread)
    · exact .inr ⟨hmem, hread⟩

/-- A path at which a file is read adds it. -/
theorem Grows.cons_of_store (h : (before.store path bytes).Grows disk paths after)
    (hnew : before.find? path = none) (hread : disk.read path = .content bytes) :
    before.Grows disk (path :: paths) after := by
  intro other found
  rw [h other found, List.mem_cons]
  by_cases heq : path = other
  · subst heq
    rw [find?_store_self, hnew, hread]
    simp
  · rw [find?_store_of_ne before heq]
    simp [Ne.symm heq]

/-- What is added to a faithful cache is what the disk has. -/
theorem Grows.faithful (h : before.Grows disk paths after) (hbefore : before.Faithful disk) :
    after.Faithful disk := by
  intro path bytes hfound
  rcases (h path bytes).1 hfound with hold | ⟨-, hread⟩
  · exact hbefore path bytes hold
  · exact hread

end Cache

namespace Shared

/-- A read comes to what the disk has. -/
theorem finishRead_snd (disk : Disk) (s : Shared) (path : Path) (context : Json.Fields) :
    (s.finishRead disk path context).2 = disk.fetched path := by
  unfold finishRead Disk.fetched
  cases disk.read path <;> rfl

/-- A read adds to the cache what it got, if it got anything. -/
theorem cache_finishRead (disk : Disk) (s : Shared) (path : Path) (context : Json.Fields) :
    (∃ bytes, disk.read path = .content bytes ∧
        (s.finishRead disk path context).1.cache = s.cache.store path bytes) ∨
      (∀ bytes, disk.read path ≠ .content bytes) ∧
        (s.finishRead disk path context).1.cache = s.cache := by
  unfold finishRead
  cases disk.read path with
  | content bytes => exact .inl ⟨bytes, rfl, rfl⟩
  | absent => exact .inr ⟨nofun, rfl⟩
  | notFile => exact .inr ⟨nofun, rfl⟩
  | refused access errno => exact .inr ⟨nofun, rfl⟩
  | nullByte => exact .inr ⟨nofun, rfl⟩

theorem faithful_finishRead {disk : Disk} {s : Shared} (h : s.cache.Faithful disk) (path : Path)
    (context : Json.Fields) : (s.finishRead disk path context).1.cache.Faithful disk := by
  rcases cache_finishRead disk s path context with ⟨bytes, hread, hcache⟩ | ⟨-, hcache⟩
  · rw [hcache]
    exact h.store hread
  · rwa [hcache]

end Shared

/-- A script over a cache that is faithful where it asks comes to its result, and the cache has
afterwards what it had before and the files that were asked for. -/
theorem Script.runAlone_asked {ε α : Type} {disk : Disk} {s : Shared} {script : Script ε α}
    (h : s.cache.FaithfulAt disk (script.asked disk)) :
    (script.runAlone disk s).2 = script.result disk ∧
      s.cache.Grows disk (script.asked disk) (script.runAlone disk s).1.cache := by
  induction script generalizing s with
  | done result => exact ⟨rfl, s.cache.grows_nil disk⟩
  | note event next ih => exact ih h
  | pause next ih => exact ih h
  | fetch path next ih =>
    rw [runAlone, result, asked]
    have hrest : s.cache.FaithfulAt disk ((next (disk.fetched path.absolute)).asked disk) :=
      fun other hmem => h other (List.mem_cons_of_mem _ hmem)
    cases hfound : s.cache.find? path.absolute with
    | some bytes =>
      have hread := h _ List.mem_cons_self bytes hfound
      rw [Disk.fetched_eq_some.2 hread] at hrest ⊢
      obtain ⟨hresult, hgrows⟩ := @ih _ (s.note (.cacheHit path.absolute)) hrest
      refine ⟨hresult, hgrows.cons_of_old fun other hother => ?_⟩
      rw [hread, Reading.content.injEq] at hother
      rw [← hother]
      exact hfound
    | none =>
      -- what is read now is stored as the disk has it
      dsimp only
      rw [← Shared.finishRead_snd disk (s.startRead path.absolute) _ s.journal.context] at hrest ⊢
      rcases Shared.cache_finishRead disk (s.startRead path.absolute) path.absolute
        s.journal.context with ⟨bytes, hread, hcache⟩ | ⟨hread, hcache⟩
      · have hstored := hrest.store hread
        obtain ⟨hresult, hgrows⟩ := @ih _ ((s.startRead path.absolute).finishRead disk _ _).1
          (by rw [hcache]; exact hstored)
        rw [hcache] at hgrows
        exact ⟨hresult, hgrows.cons_of_store hfound hread⟩
      · obtain ⟨hresult, hgrows⟩ := @ih _ ((s.startRead path.absolute).finishRead disk _ _).1
          (by rw [hcache]; exact hrest)
        rw [hcache] at hgrows
        exact ⟨hresult, hgrows.cons_of_old fun bytes hcontent => absurd hcontent (hread bytes)⟩

/-- Over a faithful cache a script comes to its result, and the cache stays faithful. -/
theorem Script.runAlone_faithful {ε α : Type} {disk : Disk} {s : Shared}
    (h : s.cache.Faithful disk) (script : Script ε α) :
    (script.runAlone disk s).2 = script.result disk ∧
      (script.runAlone disk s).1.cache.Faithful disk := by
  obtain ⟨hresult, hgrows⟩ := script.runAlone_asked (h.faithfulAt _)
  exact ⟨hresult, hgrows.faithful h⟩

end Retrace

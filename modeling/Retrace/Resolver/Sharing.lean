import Retrace.Resolver.Trace

/-!
# Resolvers and their caches

Several resolvers may work over one cache. A resolver (`TraceResolver`) that is handed a cache keeps
it if the cache holds something (`cache or FileCache()`), and begins a cache of its own otherwise.

What the resolvers of a workplace do, they do one after another on one event loop. A cache is bound
to that loop: the lock of a path that was not found stays in the cache, and serves only the loop on
which it was first waited for. A read that was given up may come to its end at any time between two
deeds; what it notes while somebody else is at work is not counted as theirs.

* `Workplace`: the caches in use, by number, and the journal;
* `Resolver.hire`: a resolver, handed a cache or not;
* `Resolver.orHire`: the resolver that is there, or else a new one;
* `Workplace.surface`: a read that was given up comes to its end;
* `Resolver.act`: what a resolver does, on its cache.

Main statement: `cache_hire_of_empty`, an empty cache that is handed over is not kept.
-/

namespace Retrace

/-- The caches in use, by number, and the journal. -/
structure Workplace where
  caches : List Cache
  journal : Journal

/-- A resolver: its settings, and the number of its cache. -/
structure Resolver where
  settings : Settings
  cache : Nat

namespace Workplace

/-- The workplace without caches. -/
def empty : Workplace := ⟨[], .empty⟩

/-- The cache with a number. -/
def cacheAt (w : Workplace) (number : Nat) : Cache := w.caches.getD number .empty

/-- The workplace with one more cache, which has the next number. -/
def addCache (w : Workplace) (cache : Cache) : Workplace := ⟨w.caches ++ [cache], w.journal⟩

/-- What is shared by those who begin to work on the cache with a number. Reads that were given up
before are none of theirs. -/
def desk (w : Workplace) (number : Nat) : Shared :=
  ⟨w.cacheAt number, [], w.journal.withStrays []⟩

/-- The workplace after one of the reads that were given up has come to its end. -/
def surface (disk : Disk) (w : Workplace) (i : Nat) : Workplace :=
  ⟨w.caches, w.journal.surface disk i⟩

end Workplace

namespace Resolver

/-- A resolver, handed the cache with a number or none. -/
def hire (settings : Settings) (handed : Option Nat) (w : Workplace) : Resolver × Workplace :=
  match handed with
  | some number =>
    if 0 < (w.cacheAt number).size then (⟨settings, number⟩, w)
    else (⟨settings, w.caches.length⟩, w.addCache .empty)
  | none => (⟨settings, w.caches.length⟩, w.addCache .empty)

/-- The resolver that is there, or else one with settings, handed no cache. -/
def orHire (resolver : Option Resolver) (settings : Settings) (w : Workplace) :
    Resolver × Workplace :=
  match resolver with
  | some resolver => (resolver, w)
  | none => hire settings none w

/-- What a resolver does, on its cache. The reads that it gives up are strays from then on. -/
def act {β : Type} (resolver : Resolver) (w : Workplace) (action : Shared → Shared × β) :
    Workplace × β :=
  let after := action (w.desk resolver.cache)
  let strays := w.journal.strays ++ after.1.journal.strays
  (⟨w.caches.set resolver.cache after.1.cache, after.1.journal.withStrays strays⟩, after.2)

/-- A cache without entries that is handed over is not kept. -/
theorem cache_hire_of_empty (settings : Settings) {number : Nat} {w : Workplace}
    (h : (w.cacheAt number).size = 0) :
    (hire settings (some number) w).1.cache = w.caches.length := by
  simp [hire, h]

end Resolver

end Retrace

import Retrace.Disk.Basic
import Retrace.Journal.Basic
import Retrace.Script

/-!
# The cache of files

The bytes of every file that was read, by absolute path, and the number of reads, as `FileCache`
keeps them. An entry is never changed or dropped; what is not there is asked for again each time.
While a file is being read its path is taken, and whoever else wants it waits. The read itself runs
in a thread (`asyncio.to_thread`), with a copy of the row of bound fields of whoever began it.

* `Cache.find?`, `Cache.store`;
* `Shared`: what pieces of work share, with `Shared.startRead` and `Shared.finishRead` around the
  reading of a file, and `Shared.within` for work in another row of bound fields;
* `Journal.surface`: a read that was given up comes to its end;
* `Script.runAlone`: a script run to its end with nobody else at work.

Main statements: `find?_store_self` and `find?_store_of_ne`.
-/

namespace Retrace

/-- The files read so far, and how often a file was read. -/
structure Cache where
  entries : List (Path × Bytes)
  reads : Nat

namespace Cache

/-- The cache without entries. -/
def empty : Cache := ⟨[], 0⟩

/-- The bytes of the file at an absolute path. -/
def find? (cache : Cache) (path : Path) : Option Bytes :=
  (cache.entries.find? fun entry => entry.1 = path).map (·.2)

/-- The cache with the bytes of one more file. -/
def store (cache : Cache) (path : Path) (bytes : Bytes) : Cache :=
  ⟨(path, bytes) :: cache.entries, cache.reads + 1⟩

/-- Whether the file at a path was read, in any spelling of the path. -/
def contains (cache : Cache) (path : Path) : Bool := (cache.find? path.absolute).isSome

/-- The number of files in the cache. -/
def size (cache : Cache) : Nat := cache.entries.length

theorem find?_store_self (cache : Cache) (path : Path) (bytes : Bytes) :
    (cache.store path bytes).find? path = some bytes := by
  simp [find?, store]

theorem find?_store_of_ne (cache : Cache) {path other : Path} (h : path ≠ other) (bytes : Bytes) :
    (cache.store path bytes).find? other = cache.find? other := by
  simp [find?, store, h]

end Cache

/-- What a read under a path notes. -/
def Disk.noted (disk : Disk) (path : Path) : List Event :=
  match disk.read path with
  | .content _ => []
  | .absent => [.fileNotFound path]
  | .notFile => [.pathNotFile path]
  | .refused _ errno => [.fileRefused path errno]
  | .nullByte => []

/-- The journal after one of its strays has come to its end. It notes what its read notes, in its
own row; what it has read is lost. -/
def Journal.surface (disk : Disk) (journal : Journal) (i : Nat) : Journal :=
  match journal.strays[i]? with
  | some stray =>
    (journal.withStrays (journal.strays.eraseIdx i)).noteAllIn stray.context
      (disk.noted stray.path)
  | none => journal

/-- What pieces of work share: the cache, the paths that are being read, and the journal. -/
structure Shared where
  cache : Cache
  taken : List Path
  journal : Journal

namespace Shared

/-- An event noted. -/
def note (s : Shared) (event : Event) : Shared := ⟨s.cache, s.taken, s.journal.note event⟩

/-- Events noted in order. -/
def noteAll (s : Shared) (events : List Event) : Shared :=
  ⟨s.cache, s.taken, s.journal.noteAll events⟩

/-- What is shared, for whoever works in a row of bound fields. -/
def enter (s : Shared) (context : Json.Fields) : Shared :=
  ⟨s.cache, s.taken, s.journal.enter context⟩

/-- Work done in a row of its own. Whoever goes on after it has the row from before. -/
def within {β : Type} (s : Shared) (context : Json.Fields) (work : Shared → Shared × β) :
    Shared × β :=
  let after := work (s.enter context)
  (after.1.enter s.journal.context, after.2)

/-- A path taken for reading, after it was not found in the cache. -/
def startRead (s : Shared) (path : Path) : Shared :=
  ⟨s.cache, path :: s.taken, s.journal.note (.cacheMiss path)⟩

/-- A path given free. -/
def release (s : Shared) (path : Path) : Shared := ⟨s.cache, s.taken.erase path, s.journal⟩

/-- A taken path read by a thread with a row, its bytes stored, and the path given free. -/
def finishRead (disk : Disk) (s : Shared) (path : Path) (context : Json.Fields) :
    Shared × Fetched :=
  let free := s.release path
  let journal := s.journal.noteAllIn context (disk.noted path)
  match disk.read path with
  | .content bytes => (⟨free.cache.store path bytes, free.taken, journal⟩, .ok (some bytes))
  | .absent => (⟨free.cache, free.taken, journal⟩, .ok none)
  | .notFile => (⟨free.cache, free.taken, journal⟩, .ok none)
  | .refused access errno =>
    (⟨free.cache, free.taken, journal⟩, .error (.refused access path errno))
  | .nullByte => (⟨free.cache, free.taken, journal⟩, .error .nullByte)

/-- A read given up: its path is free, and its thread goes on as a stray. -/
def strandRead (s : Shared) (path : Path) (context : Json.Fields) : Shared :=
  let free := s.release path
  ⟨free.cache, free.taken, free.journal.strand path context⟩

/-- What is shared after strays have come to their end, one after another. -/
def surface (disk : Disk) (s : Shared) (drift : List Nat) : Shared :=
  ⟨s.cache, s.taken, drift.foldl (Journal.surface disk) s.journal⟩

end Shared

namespace Script

variable {ε α : Type}

/-- A script run to its end with nobody else at work. -/
def runAlone (disk : Disk) (s : Shared) : Script ε α → Shared × Except ε α
  | done result => (s, result)
  | note event next => next.runAlone disk (s.note event)
  | pause next => next.runAlone disk s
  | fetch path next =>
    let path := path.absolute
    match s.cache.find? path with
    | some bytes => (next (.ok (some bytes))).runAlone disk (s.note (.cacheHit path))
    | none =>
      let read := (s.startRead path).finishRead disk path s.journal.context
      (next read.2).runAlone disk read.1

end Script

end Retrace

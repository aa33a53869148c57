import Retrace.Pool.Course
import Retrace.Proofs.Outcome

/-!
# What is noted

Whoever is at work only adds to the journal: what is noted at the end is what was noted before and
then events, each with the row of bound fields of the one who noted it. If a script notes events of
one kind only, and so do the reads that it asks for, then only events of this kind are added, alone
or in a pool, whatever the turns and however the pool ends. As work takes over the row of the work
that begins it, all of them have one row, down to the reads that are given up.

* `Journal.Noted`: a journal to which events of a kind were added in a row;
* `Script.Notes`: the scripts that note events of a kind only, whatever they get to read;
* `Task.Notes`, `Job.Notes`, `Pool.Notes`: the invariant of such scripts at work in a row.

Main statements: `Journal.Noted.get?_fields`, `Script.noted_runAlone` and `Pool.noted_run`.
-/

namespace Retrace

variable {ε ζ α β : Type} {kind : Event → Prop} {row : Json.Fields} {disk : Disk} {s : Shared}

/-! ### Journals -/

namespace Journal

/-- Whether a journal is another to which events of a kind were added by work in a row of bound
fields. The work may have given up reads, and their threads have the same row. -/
structure Noted (kind : Event → Prop) (row : Json.Fields) (before after : Journal) : Prop where
  context : after.context = before.context
  entries : ∃ entries, after.entries = before.entries ++ entries ∧
    ∀ entry ∈ entries, kind entry.event ∧ entry.context = row
  strays : ∀ stray ∈ after.strays, stray ∈ before.strays ∨ stray.context = row

namespace Noted

variable {before middle after : Journal}

theorem refl (journal : Journal) : journal.Noted kind row journal where
  context := rfl
  entries := ⟨[], (List.append_nil _).symm, nofun⟩
  strays _ hstray := .inl hstray

theorem trans (h : before.Noted kind row middle) (hnext : middle.Noted kind row after) :
    before.Noted kind row after where
  context := hnext.context.trans h.context
  entries := by
    obtain ⟨first, hfirst, hkinds⟩ := h.entries
    obtain ⟨second, hsecond, hkinds'⟩ := hnext.entries
    refine ⟨first ++ second, by rw [hsecond, hfirst, List.append_assoc], fun entry hentry => ?_⟩
    rcases List.mem_append.1 hentry with hentry | hentry
    · exact hkinds entry hentry
    · exact hkinds' entry hentry
  strays stray hstray := (hnext.strays stray hstray).elim (h.strays stray) .inr

theorem noteIn (journal : Journal) {event : Event} (hkind : kind event) :
    journal.Noted kind row (journal.noteIn row event) where
  context := rfl
  entries := ⟨[⟨event, row⟩], rfl, fun _ hentry => by
    rw [List.mem_singleton.1 hentry]
    exact ⟨hkind, rfl⟩⟩
  strays _ hstray := .inl hstray

theorem note {journal : Journal} (hrow : journal.context = row) {event : Event}
    (hkind : kind event) : journal.Noted kind row (journal.note event) := by
  rw [Journal.note, hrow]
  exact noteIn journal hkind

theorem noteAllIn (journal : Journal) (row : Json.Fields) {events : List Event}
    (h : ∀ event ∈ events, kind event) : journal.Noted kind row (journal.noteAllIn row events) := by
  induction events generalizing journal with
  | nil => exact refl journal
  | cons event rest ih =>
    rw [List.forall_mem_cons] at h
    exact (noteIn journal h.1).trans (ih (journal.noteIn row event) h.2)

theorem noteAll {journal : Journal} (hrow : journal.context = row) {events : List Event}
    (h : ∀ event ∈ events, kind event) : journal.Noted kind row (journal.noteAll events) := by
  rw [Journal.noteAll, hrow]
  exact noteAllIn journal row h

/-- What is noted by work in a row of its own is noted, and the row from before is at work again. -/
theorem of_enter {journal : Journal} (h : (journal.enter row).Noted kind row after) :
    journal.Noted kind row (after.enter journal.context) where
  context := rfl
  entries := h.entries
  strays := h.strays

theorem strand (journal : Journal) (path : Path) :
    journal.Noted kind row (journal.strand path row) where
  context := rfl
  entries := ⟨[], (List.append_nil _).symm, nofun⟩
  strays stray hstray := by
    rcases List.mem_append.1 hstray with hold | hnew
    · exact .inl hold
    · exact .inr (congrArg Stray.context (List.mem_singleton.1 hnew))

/-- If all strays were given up in a row, so were those that are left. -/
theorem strays_eq (h : before.Noted kind row after)
    (hbefore : ∀ stray ∈ before.strays, stray.context = row) :
    ∀ stray ∈ after.strays, stray.context = row :=
  fun stray hstray => (h.strays stray hstray).elim (hbefore stray) id

/-- A field that is bound in the row stands in every entry that is added, if no event has a field of
its own under the key. -/
theorem get?_fields {key : Text} {value : Json}
    (h : before.Noted (fun event => Json.Fields.get? key event.fields = none) row after)
    (hbound : Json.Fields.get? key row = some value) :
    ∃ entries, after.entries = before.entries ++ entries ∧
      ∀ entry ∈ entries, Json.Fields.get? key entry.fields = some value := by
  obtain ⟨entries, heq, hentries⟩ := h.entries
  refine ⟨entries, heq, fun entry hentry => ?_⟩
  obtain ⟨hnone, hcontext⟩ := hentries entry hentry
  rw [JournalEntry.fields, Json.Fields.get?_merge_of_eq_none hnone, hcontext, hbound]

end Noted

end Journal

/-! ### Scripts -/

/-- Whether an event is about the reading of a file. -/
def Event.OfCache : Event → Prop
  | cacheHit _ => True
  | cacheMiss _ => True
  | fileNotFound _ => True
  | pathNotFile _ => True
  | fileRefused .. => True
  | _ => False

namespace Script

/-- Whether a script notes events of a kind only, whatever comes of asking for files. -/
def Notes (kind : Event → Prop) : Script ε α → Prop
  | done _ => True
  | note event next => kind event ∧ next.Notes kind
  | pause next => next.Notes kind
  | fetch _ next => ∀ fetched, (next fetched).Notes kind

theorem Notes.andThen {script : Script ε α} (h : script.Notes kind)
    {next : Except ε α → Script ζ β} (hnext : ∀ result, (next result).Notes kind) :
    (script.andThen next).Notes kind := by
  induction script with
  | done result => exact hnext result
  | note event rest ih => exact ⟨h.1, ih h.2⟩
  | pause rest ih => exact ih h
  | fetch path rest ih => exact fun fetched => ih fetched (h fetched)

theorem Notes.bind {script : Script ε α} (h : script.Notes kind) {next : α → Script ε β}
    (hnext : ∀ a, (next a).Notes kind) : (script >>= next).Notes kind :=
  h.andThen fun
    | .ok a => hnext a
    | .error _ => trivial

theorem notes_pure (a : α) : (pure a : Script ε α).Notes kind := trivial

theorem notes_ofExcept (outcome : Except ε α) : (ofExcept outcome).Notes kind := trivial

theorem notes_noting {event : Event} (hkind : kind event) :
    (noting event : Script ε Unit).Notes kind := ⟨hkind, trivial⟩

theorem notes_notingAll {events : List Event} (hkind : ∀ event ∈ events, kind event) :
    (notingAll events : Script ε Unit).Notes kind := by
  induction events with
  | nil => trivial
  | cons event rest ih =>
    rw [List.forall_mem_cons] at hkind
    exact ⟨hkind.1, ih hkind.2⟩

theorem notes_fetching (path : Path) : (fetching path).Notes kind := fun _ => trivial

end Script

/-! ### Scripts at work -/

theorem Shared.noted_within (work : Shared → Shared × β)
    (h : (s.enter row).journal.Noted kind row (work (s.enter row)).1.journal) :
    s.journal.Noted kind row (s.within row work).1.journal := .of_enter h

/-- Whether what a task has left to do notes events of a kind only, and the read that is under way
for it has a row. -/
def Task.Notes (kind : Event → Prop) (row : Json.Fields) : Task ε α → Prop
  | .ready script => script.Notes kind
  | .queued _ next => ∀ fetched, (next fetched).Notes kind
  | .reading _ context next => context = row ∧ ∀ fetched, (next fetched).Notes kind
  | .ended _ => True

theorem Task.Notes.script {task : Task ε α} (h : task.Notes kind row) :
    task.script.Notes kind := by
  cases task with
  | ready script => exact h
  | queued path next => exact h
  | reading path context next => exact h.2
  | ended result => trivial

/-- A read that is given up with a task has the row. -/
theorem Task.noted_drop {task : Task ε α} (h : task.Notes kind row) (s : Shared) :
    s.journal.Noted kind row (task.drop s).journal := by
  cases task with
  | reading path context next =>
    obtain ⟨rfl, -⟩ := h
    exact .strand s.journal path
  | ready script => exact .refl s.journal
  | queued path next => exact .refl s.journal
  | ended result => exact .refl s.journal

section AtWork

variable (hcache : ∀ event : Event, event.OfCache → kind event)

include hcache

/-- What a read notes is about the reading of a file. -/
theorem Disk.kind_noted (disk : Disk) (path : Path) : ∀ event ∈ disk.noted path, kind event := by
  unfold noted
  cases disk.read path with
  | content bytes => exact nofun
  | absent => exact List.forall_mem_singleton.2 (hcache _ trivial)
  | notFile => exact List.forall_mem_singleton.2 (hcache _ trivial)
  | refused access errno => exact List.forall_mem_singleton.2 (hcache _ trivial)
  | nullByte => exact nofun

theorem Shared.noted_startRead (hrow : s.journal.context = row) (path : Path) :
    s.journal.Noted kind row (s.startRead path).journal :=
  .note hrow (hcache (.cacheMiss path) trivial)

theorem Shared.noted_finishRead (disk : Disk) (s : Shared) (path : Path) (row : Json.Fields) :
    s.journal.Noted kind row (s.finishRead disk path row).1.journal := by
  have hnoted := Journal.Noted.noteAllIn s.journal row (Disk.kind_noted hcache disk path)
  unfold finishRead
  cases disk.read path <;> exact hnoted

/-- A stray of a row notes in this row what its read notes. -/
theorem Journal.noted_surface (disk : Disk) {journal : Journal}
    (h : ∀ stray ∈ journal.strays, stray.context = row) (i : Nat) :
    journal.Noted kind row (journal.surface disk i) := by
  unfold surface
  split
  · rename_i stray hstray
    have hforgotten : journal.Noted kind row (journal.withStrays (journal.strays.eraseIdx i)) :=
      ⟨rfl, ⟨[], (List.append_nil _).symm, nofun⟩,
        fun _ hother => .inl (List.mem_of_mem_eraseIdx hother)⟩
    rw [h stray (List.mem_of_getElem? hstray)]
    exact hforgotten.trans (.noteAllIn _ _ (Disk.kind_noted hcache disk stray.path))
  · exact .refl journal

theorem Shared.noted_surface (disk : Disk) (h : ∀ stray ∈ s.journal.strays, stray.context = row)
    (drift : List Nat) : s.journal.Noted kind row (s.surface disk drift).journal := by
  refine List.foldlRecOn (motive := fun after => s.journal.Noted kind row after) drift _
    (.refl s.journal) fun after hafter i _ => ?_
  exact hafter.trans (Journal.noted_surface hcache disk (hafter.strays_eq h) i)

theorem Script.noted_runAlone (disk : Disk) {script : Script ε α} (h : script.Notes kind)
    (hrow : s.journal.context = row) :
    s.journal.Noted kind row (script.runAlone disk s).1.journal := by
  induction script generalizing s with
  | done result => exact .refl s.journal
  | note event next ih =>
    exact (Journal.Noted.note hrow h.1).trans (ih h.2 (s := s.note event) hrow)
  | pause next ih => exact ih h hrow
  | fetch path next ih =>
    rw [runAlone]
    cases s.cache.find? path.absolute with
    | some bytes =>
      have hhit := Journal.Noted.note hrow (hcache (.cacheHit path.absolute) trivial)
      exact hhit.trans (ih _ (h _) (s := s.note (.cacheHit path.absolute)) hrow)
    | none =>
      -- the thread of the read has the row of the script
      have hstart := Shared.noted_startRead hcache hrow path.absolute
      have hread :=
        Shared.noted_finishRead hcache disk (s.startRead path.absolute) path.absolute row
      dsimp only
      rw [hrow]
      exact (hstart.trans hread).trans (ih _ (h _) (hread.context.trans hrow))

/-- What is left of a script notes events of the same kind. -/
theorem Script.noted_advance {script : Script ε α} (h : script.Notes kind)
    (hrow : s.journal.context = row) :
    s.journal.Noted kind row (script.advance s).1.journal ∧
      (script.advance s).2.Notes kind row := by
  induction script generalizing s with
  | done result => exact ⟨.refl s.journal, trivial⟩
  | note event next ih =>
    obtain ⟨hnoted, hleft⟩ := ih h.2 (s := s.note event) hrow
    exact ⟨(Journal.Noted.note hrow h.1).trans hnoted, hleft⟩
  | pause next ih => exact ⟨.refl s.journal, h⟩
  | fetch path next ih =>
    rw [advance]
    cases s.cache.find? path.absolute with
    | some bytes =>
      have hhit := Journal.Noted.note hrow (hcache (.cacheHit path.absolute) trivial)
      obtain ⟨hnoted, hleft⟩ :=
        ih _ (h (.ok (some bytes))) (s := s.note (.cacheHit path.absolute)) hrow
      exact ⟨hhit.trans hnoted, hleft⟩
    | none =>
      dsimp only
      split
      · exact ⟨.refl s.journal, h⟩
      · exact ⟨Shared.noted_startRead hcache hrow path.absolute, hrow, h⟩

namespace Task

variable {task : Task ε α}

theorem noted_turn (disk : Disk) (h : task.Notes kind row) (hrow : s.journal.context = row) :
    s.journal.Noted kind row (task.turn disk s).1.journal ∧
      (task.turn disk s).2.Notes kind row := by
  cases task with
  | ready script => exact Script.noted_advance hcache h hrow
  | queued path next =>
    rw [turn]
    split
    · exact ⟨.refl s.journal, h⟩
    · cases s.cache.find? path with
      | some bytes =>
        have hhit := Journal.Noted.note hrow (hcache (.cacheHit path) trivial)
        obtain ⟨hnoted, hleft⟩ :=
          Script.noted_advance hcache (h (.ok (some bytes))) (s := s.note (.cacheHit path)) hrow
        exact ⟨hhit.trans hnoted, hleft⟩
      | none => exact ⟨Shared.noted_startRead hcache hrow path, hrow, h⟩
  | reading path context next =>
    obtain ⟨rfl, hnext⟩ := h
    have hread := Shared.noted_finishRead hcache disk s path context
    obtain ⟨hnoted, hleft⟩ := Script.noted_advance hcache (hnext (s.finishRead disk path context).2)
      (hread.context.trans hrow)
    exact ⟨hread.trans hnoted, hleft⟩
  | ended result => exact ⟨.refl s.journal, trivial⟩

theorem noted_land (disk : Disk) (h : task.Notes kind row) (s : Shared) :
    s.journal.Noted kind row (task.land disk s).1.journal ∧
      (task.land disk s).2.Notes kind row := by
  cases task with
  | reading path context next =>
    obtain ⟨rfl, hnext⟩ := h
    exact ⟨Shared.noted_finishRead hcache disk s path context, hnext _⟩
  | ready script => exact ⟨.refl s.journal, h⟩
  | queued path next => exact ⟨.refl s.journal, h⟩
  | ended result => exact ⟨.refl s.journal, h⟩

end Task

end AtWork

/-! ### Pools -/

/-- Whether a job has a row, and what it has left to do notes events of a kind only. -/
def Job.Notes (kind : Event → Prop) (row : Json.Fields) : Job ε α → Prop
  | .waiting context script => context = row ∧ script.Notes kind
  | .running context task => context = row ∧ task.Notes kind row
  | _ => True

/-- The reads that are given up with jobs of a row have the row. -/
theorem Job.noted_foldl_release {jobs : List (Job ε α)} (h : ∀ job ∈ jobs, job.Notes kind row)
    (s : Shared) : s.journal.Noted kind row (jobs.foldl Job.release s).journal := by
  induction jobs generalizing s with
  | nil => exact .refl s.journal
  | cons job rest ih =>
    rw [List.forall_mem_cons] at h
    refine .trans ?_ (ih h.2 (job.release s))
    cases job with
    | running context task => exact task.noted_drop h.1.2 s
    | waiting context script => exact .refl s.journal
    | finished value => exact .refl s.journal
    | dropped => exact .refl s.journal

namespace Pool

variable {pool : Pool ε α}

/-- Whether the jobs of a pool have a row, and what they have left to do notes events of a kind
only. -/
def Notes (kind : Event → Prop) (row : Json.Fields) (pool : Pool ε α) : Prop :=
  ∀ job ∈ pool.jobs, job.Notes kind row

theorem notes_start (limit : Nat) (row : Json.Fields) {scripts : List (Script ε α)}
    (h : ∀ script ∈ scripts, script.Notes kind) : (start limit row scripts).Notes kind row := by
  intro job hjob
  obtain ⟨script, hscript, rfl⟩ := List.mem_map.1 hjob
  exact ⟨rfl, h script hscript⟩

theorem Notes.setJob (h : pool.Notes kind row) (i : Nat) {job : Job ε α}
    (hjob : job.Notes kind row) : (pool.setJob i job).Notes kind row := by
  intro other hother
  rcases List.mem_or_eq_of_mem_set hother with hold | rfl
  · exact h other hold
  · exact hjob

/-- A pool that is given up notes nothing more, and has nothing left to do. -/
theorem noted_fail (h : pool.Notes kind row) (s : Shared) (failure : ε) :
    s.journal.Noted kind row (pool.fail s failure).1.journal ∧
      (pool.fail s failure).2.Notes kind row := by
  refine ⟨Job.noted_foldl_release h s, ?_⟩
  intro job hjob
  obtain ⟨old, -, rfl⟩ := List.mem_map.1 hjob
  cases old <;> trivial

/-- A job that has come to a task notes nothing more on the way. -/
theorem noted_place (h : pool.Notes kind row) (i : Nat) (next : Shared × Task ε α)
    (hnext : next.2.Notes kind row) :
    next.1.journal.Noted kind row (pool.place i row next).1.journal ∧
      (pool.place i row next).2.Notes kind row := by
  obtain ⟨s, task⟩ := next
  cases task with
  | ended outcome =>
    cases outcome with
    | ok value => exact ⟨.refl s.journal, h.setJob i trivial⟩
    | error failure =>
      have hset : (pool.setJob i .dropped).Notes kind row := h.setJob i trivial
      exact noted_fail hset s failure
  | ready script => exact ⟨.refl s.journal, h.setJob i ⟨rfl, hnext⟩⟩
  | queued path rest => exact ⟨.refl s.journal, h.setJob i ⟨rfl, hnext⟩⟩
  | reading path context rest => exact ⟨.refl s.journal, h.setJob i ⟨rfl, hnext⟩⟩

section AtWork

variable (hcache : ∀ event : Event, event.OfCache → kind event)

include hcache

/-- A turn adds to the journal in the row of the jobs, whoever had been at work before. -/
theorem noted_turn (h : pool.Notes kind row) (disk : Disk) (s : Shared) (i : Nat) :
    s.journal.Noted kind row (pool.turn disk s i).1.journal ∧
      (pool.turn disk s i).2.Notes kind row := by
  rw [turn]
  split
  · exact ⟨.refl s.journal, h⟩
  · split
    · rename_i context task hjob
      obtain ⟨rfl, htask⟩ := h _ (List.mem_of_getElem? hjob)
      obtain ⟨hnoted, hleft⟩ := Task.noted_turn hcache disk htask (s := s.enter context) rfl
      obtain ⟨hplace, hplaced⟩ :=
        noted_place h i (s.within context fun s => task.turn disk s) hleft
      exact ⟨(Shared.noted_within _ hnoted).trans hplace, hplaced⟩
    · rename_i context script hjob
      obtain ⟨rfl, hscript⟩ := h _ (List.mem_of_getElem? hjob)
      split
      · obtain ⟨hnoted, hleft⟩ := Script.noted_advance hcache hscript (s := s.enter context) rfl
        have hbegun : (pool.setJob i (.running context (.ready script))).Notes kind context :=
          h.setJob i ⟨rfl, hscript⟩
        obtain ⟨hplace, hplaced⟩ :=
          noted_place hbegun i (s.within context fun s => script.advance s) hleft
        exact ⟨(Shared.noted_within _ hnoted).trans hplace, hplaced⟩
      · exact ⟨.refl s.journal, h⟩
    · exact ⟨.refl s.journal, h⟩

theorem noted_turns (h : pool.Notes kind row) (disk : Disk) (s : Shared) (course : List Nat) :
    s.journal.Noted kind row (pool.turns disk s course).1.journal ∧
      (pool.turns disk s course).2.Notes kind row := by
  induction course generalizing s pool with
  | nil => exact ⟨.refl s.journal, h⟩
  | cons i rest ih =>
    obtain ⟨hturn, hleft⟩ := noted_turn hcache h disk s i
    obtain ⟨hrest, hend⟩ := ih hleft (pool.turn disk s i).1
    exact ⟨hturn.trans hrest, hend⟩

theorem noted_landAll (disk : Disk) (s : Shared) {jobs : List (Job ε α)}
    (h : ∀ job ∈ jobs, job.Notes kind row) :
    s.journal.Noted kind row (landAll disk s jobs).1.journal ∧
      ∀ job ∈ (landAll disk s jobs).2, job.Notes kind row := by
  induction jobs generalizing s with
  | nil => exact ⟨.refl s.journal, nofun⟩
  | cons job rest ih =>
    rw [List.forall_mem_cons] at h
    cases job with
    | running context task =>
      obtain ⟨⟨rfl, htask⟩, hothers⟩ := h
      obtain ⟨hland, hleft⟩ := Task.noted_land hcache disk htask (s.enter context)
      obtain ⟨hrest, hjobs⟩ := ih (s.within context fun s => task.land disk s).1 hothers
      exact ⟨(Shared.noted_within _ hland).trans hrest,
        List.forall_mem_cons.2 ⟨⟨rfl, hleft⟩, hjobs⟩⟩
    | _ =>
      obtain ⟨hrest, hjobs⟩ := ih s h.2
      exact ⟨hrest, List.forall_mem_cons.2 ⟨h.1, hjobs⟩⟩

/-- Jobs that are brought to their end one after another note what they have left to note. -/
theorem noted_finishEach (disk : Disk) {left? : Job ε α → Option (Json.Fields × Script ε α)}
    (hleft : ∀ job left, left? job = some left → job.Notes kind row →
      left.1 = row ∧ left.2.Notes kind)
    (s : Shared) {jobs : List (Job ε α)} (h : ∀ job ∈ jobs, job.Notes kind row) :
    s.journal.Noted kind row (finishEach disk left? s jobs).1.journal ∧
      ∀ rest, (finishEach disk left? s jobs).2 = .ok rest → ∀ job ∈ rest, job.Notes kind row := by
  induction jobs generalizing s with
  | nil =>
    refine ⟨.refl s.journal, ?_⟩
    rintro rest ⟨⟩ job ⟨⟩
  | cons job rest ih =>
    rw [List.forall_mem_cons] at h
    rw [finishEach]
    cases hjob : left? job with
    | none =>
      obtain ⟨hrest, hjobs⟩ := ih s h.2
      refine ⟨hrest, fun all hall => ?_⟩
      obtain ⟨others, hothers, rfl⟩ := map_eq_ok.1 hall
      exact List.forall_mem_cons.2 ⟨h.1, hjobs others hothers⟩
    | some left =>
      obtain ⟨context, script⟩ := left
      obtain ⟨rfl, hscript⟩ := hleft job _ hjob h.1
      have halone := Shared.noted_within (fun s => script.runAlone disk s)
        (Script.noted_runAlone hcache disk hscript (s := s.enter context) rfl)
      dsimp only
      split
      · rename_i s' failure heq
        rw [heq] at halone
        exact ⟨halone, nofun⟩
      · rename_i s' value heq
        rw [heq] at halone
        obtain ⟨hrest, hjobs⟩ := ih s' h.2
        refine ⟨halone.trans hrest, fun all hall => ?_⟩
        obtain ⟨others, hothers, rfl⟩ := map_eq_ok.1 hall
        exact List.forall_mem_cons.2 ⟨trivial, hjobs others hothers⟩

theorem noted_settle (h : pool.Notes kind row) (disk : Disk) (s : Shared) :
    s.journal.Noted kind row (pool.settle disk s).1.journal := by
  have hbegun : ∀ (job : Job ε α) left, job.begun? = some left → job.Notes kind row →
      left.1 = row ∧ left.2.Notes kind := by
    rintro (_ | ⟨context, task⟩ | _ | _) left ⟨⟩ hjob
    exact ⟨hjob.1, hjob.2.script⟩
  have hfresh : ∀ (job : Job ε α) left, job.fresh? = some left → job.Notes kind row →
      left.1 = row ∧ left.2.Notes kind := by
    rintro (⟨context, script⟩ | _ | _ | _) left ⟨⟩ hjob
    exact hjob
  rw [settle]
  split
  · exact .refl s.journal
  · obtain ⟨hland, hlanded⟩ := noted_landAll hcache disk s h
    obtain ⟨hran, hrest⟩ := noted_finishEach hcache disk hbegun (landAll disk s pool.jobs).1 hlanded
    dsimp only
    split
    · rename_i s' failure heq
      rw [heq] at hran
      exact hland.trans hran
    · rename_i s' jobs heq
      rw [heq] at hran hrest
      have hlast := (noted_finishEach hcache disk hfresh s' (hrest jobs rfl)).1
      split
      · rename_i s'' failure heq'
        rw [heq'] at hlast
        exact (hland.trans hran).trans hlast
      · rename_i s'' jobs' heq'
        rw [heq'] at hlast
        exact (hland.trans hran).trans hlast

/-- Whatever the course of a pool, and however it ends, it notes events of the kind that its scripts
and their reads note, in the row that it was begun in. -/
theorem noted_run (disk : Disk) (s : Shared) (limit : Nat) (row : Json.Fields)
    {scripts : List (Script ε α)} (h : ∀ script ∈ scripts, script.Notes kind) (course : Course) :
    s.journal.Noted kind row ((start limit row scripts).run disk s course).1.journal := by
  have hstart := notes_start limit row h
  cases course with
  | untouched => exact .refl s.journal
  | cut turns =>
    obtain ⟨hturns, hleft⟩ := noted_turns hcache hstart disk s turns
    rw [run]
    split
    · exact hturns
    · exact hturns.trans (Job.noted_foldl_release hleft _)
  | full turns =>
    obtain ⟨hturns, hleft⟩ := noted_turns hcache hstart disk s turns
    exact hturns.trans (noted_settle hcache hleft disk _)

end AtWork

end Pool

end Retrace

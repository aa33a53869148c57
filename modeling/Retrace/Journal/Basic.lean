import Retrace.Journal.Event

/-!
# Journals

The events noted so far, each with the fields that were bound for whoever noted it, as
`bind_context` and `unbind_context` leave them. A field of the event itself hides a bound one.

Every piece of work has a row of bound fields of its own. Work that is begun by other work, a task
or the thread that reads a file, begins with a copy of the row there (`contextvars.copy_context`),
and nobody sees what is bound or released on the other side afterwards. The context of a journal is
the row of whoever is at work.

A read that is given up is a stray: its thread goes on, and may still note something.

* `Journal.noteIn`, `Journal.note`: an event noted in a row, and in the row at work;
* `Journal.enter`: the journal of whoever works in another row;
* `Journal.strand`: a read given up.

Main statement: `getLast?_entries_note`, an event is noted with the fields that are bound.
-/

namespace Retrace

/-- An event, and the fields that were bound when it was noted. -/
structure JournalEntry where
  event : Event
  context : Json.Fields

/-- The fields of an entry. -/
def JournalEntry.fields (entry : JournalEntry) : Json.Fields :=
  Json.Fields.merge entry.context entry.event.fields

/-- A read that was given up: its path, and the row of its thread. -/
structure Stray where
  path : Path
  context : Json.Fields

/-- The row of whoever is at work, the entries in the order in which they were noted, and the reads
that were given up and may still note something. -/
structure Journal where
  context : Json.Fields
  entries : List JournalEntry
  strays : List Stray

namespace Journal

/-- The journal without bound fields, entries and strays. -/
def empty : Journal := ⟨[], [], []⟩

/-- The journal with an event noted in a row. -/
def noteIn (journal : Journal) (context : Json.Fields) (event : Event) : Journal :=
  ⟨journal.context, journal.entries ++ [⟨event, context⟩], journal.strays⟩

/-- The journal with events noted in a row, in order. -/
def noteAllIn (journal : Journal) (context : Json.Fields) (events : List Event) : Journal :=
  events.foldl (fun journal event => journal.noteIn context event) journal

/-- The journal with an event noted. -/
def note (journal : Journal) (event : Event) : Journal := journal.noteIn journal.context event

/-- The journal with events noted in order. -/
def noteAll (journal : Journal) (events : List Event) : Journal :=
  journal.noteAllIn journal.context events

/-- The journal with a field bound. -/
def bind (journal : Journal) (key : Text) (value : Json) : Journal :=
  ⟨Json.Fields.put key value journal.context, journal.entries, journal.strays⟩

/-- The journal without a bound field. -/
def unbind (journal : Journal) (key : Text) : Journal :=
  ⟨Json.Fields.remove key journal.context, journal.entries, journal.strays⟩

/-- The journal of whoever works in another row. -/
def enter (journal : Journal) (context : Json.Fields) : Journal :=
  ⟨context, journal.entries, journal.strays⟩

/-- The journal with one more read given up. -/
def strand (journal : Journal) (path : Path) (context : Json.Fields) : Journal :=
  ⟨journal.context, journal.entries, journal.strays ++ [⟨path, context⟩]⟩

/-- The journal with other strays. -/
def withStrays (journal : Journal) (strays : List Stray) : Journal :=
  ⟨journal.context, journal.entries, strays⟩

/-- An event is noted with the fields that are bound. -/
theorem getLast?_entries_note (journal : Journal) (event : Event) :
    (journal.note event).entries.getLast? = some ⟨event, journal.context⟩ := by
  simp [note, noteIn]

end Journal

end Retrace

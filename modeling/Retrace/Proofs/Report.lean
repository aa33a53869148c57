import Retrace.Proofs.Journal
import Retrace.Proofs.Json
import Retrace.Report.Basic

/-!
# What a report leaves behind

While a stack is being resolved the name of its error is bound in the journal. The resolver notes
nothing with a name of an error of its own, so all that is noted in the meantime carries the bound
one, and however the resolving ends, the name is released again and nothing else is. Frames, and the
threads that read files for them, work in copies of the row in which the name is bound; so a read
that is given up notes under the name even when the report has ended.

* `Event.Nameless`: the events without a name of an error, and `notes_resolveFrame`: a frame that is
  resolved notes nothing else;
* `ErrorSource.Stackless`, `ErrorSource.Sent`: the sources that no report is made on, and those that
  are errors or were read from a text;
* `Journal.Reported`: a journal after a report on an error.

Main statement: `Report.onError_reported`.
-/

namespace Retrace

variable {α : Type} {disk : Disk} {s : Shared} {settings : Settings}

/-! ### What the resolver notes -/

/-- Whether an event has no name of an error of its own. -/
def Event.Nameless (event : Event) : Prop := Json.Fields.get? errorNameKey event.fields = none

/-- What is noted about the reading of a file has no name of an error. -/
theorem Event.OfCache.nameless (event : Event) (h : event.OfCache) : event.Nameless := by
  cases event with
  | cacheHit path => rfl
  | cacheMiss path => rfl
  | fileNotFound path => rfl
  | pathNotFile path => rfl
  | fileRefused path errno => rfl
  | _ => exact h.elim

section Scripts

open Script

/-- A script that only notes something on the way to a value. -/
theorem notes_aside (event : Event) (h : event.Nameless) (a : α) :
    (noting event >>= fun _ => pure a : Script Failure α).Notes Event.Nameless :=
  (notes_noting h).bind fun _ => notes_pure a

theorem notes_fetchingText (path : Path) : (fetchingText path).Notes Event.Nameless :=
  (notes_fetching path).bind fun _ => notes_pure _

namespace SourceMap

theorem notes_load (reference : Text) (bundle : Path) (root : Option Path) :
    (load reference bundle root).Notes Event.Nameless := by
  refine (notes_ofExcept _).bind fun path => (notes_fetching path).bind fun bytes? => ?_
  cases bytes? with
  | none => exact notes_ofExcept _
  | some bytes => exact notes_ofExcept _

theorem notes_follow (reference : Text) (bundle : Path) (root : Option Path) :
    (follow reference bundle root).Notes Event.Nameless := by
  rw [follow]
  split
  · exact notes_ofExcept _
  · exact notes_load reference bundle root

theorem notes_locate (text : Text) (bundle : Path) (root : Option Path) :
    (locate text bundle root).Notes Event.Nameless := by
  rw [locate]
  split
  · exact notes_aside (.sourceMapNotFound bundle) rfl none
  · refine (notes_follow _ bundle root).andThen fun outcome => ?_
    split
    · exact notes_aside (.sourceMapDecoded bundle _) rfl _
    · split
      · exact notes_aside (.sourceMapFailed bundle _ _) rfl none
      · exact notes_ofExcept _

end SourceMap

theorem notes_sourceText (bundle : Path) (map : SourceMap) (place : SourcePlace) :
    (sourceText bundle map place).Notes Event.Nameless := by
  rw [sourceText]
  split
  · exact notes_pure _
  · refine (notes_ofExcept _).bind fun path? => ?_
    cases path? with
    | none => exact notes_pure none
    | some path => exact notes_fetchingText path

theorem notes_resolveMapped (settings : Settings) (raw : RawFrame) (bundle : Path)
    (map : SourceMap) : (resolveMapped settings raw bundle map).Notes Event.Nameless := by
  refine (notes_ofExcept _).bind fun place? => ?_
  cases place? with
  | none => exact notes_aside (.sourceMapNoEntry raw.file raw.line) rfl none
  | some place =>
    refine (notes_sourceText bundle map place).bind fun text? => ?_
    cases text? with
    | none => exact notes_aside (.sourceMissing place.source) rfl _
    | some text => exact notes_pure _

theorem notes_unresolved (raw : RawFrame) (kind : TargetKind) :
    (unresolved raw kind).Notes Event.Nameless := notes_aside (.frameUnresolved raw.file kind) rfl _

theorem notes_resolveFile (settings : Settings) (raw : RawFrame) (kind : TargetKind) (file : Path)
    (shown : Text) (root : Option Path) :
    (resolveFile settings raw kind file shown root).Notes Event.Nameless := by
  refine (notes_fetchingText file).bind fun text? => ?_
  split
  · refine (SourceMap.notes_locate _ file root).bind fun map? => ?_
    cases map? with
    | none => exact (notes_pure none).bind fun _ => notes_pure _
    | some map => exact (notes_resolveMapped settings raw file map).bind fun _ => notes_pure _
  · exact notes_unresolved raw kind

/-- A frame that is resolved notes nothing with a name of an error of its own. -/
theorem notes_resolveFrame (settings : Settings) (raw : RawFrame) :
    (resolveFrame settings raw).Notes Event.Nameless := by
  refine (notes_ofExcept _).bind fun target => ?_
  refine (notes_notingAll ?_).bind fun _ => ?_
  · intro event hevent
    cases target with
    | outside cause =>
      rw [List.mem_singleton.1 hevent]
      rfl
    | nowhere => cases hevent
    | served root file => cases hevent
    | stored file shown => cases hevent
  · cases target with
    | nowhere => exact notes_pure _
    | outside cause => exact notes_unresolved raw .bundle
    | served root file => exact notes_resolveFile settings raw .bundle file _ (some root)
    | stored file shown => exact notes_resolveFile settings raw .file file shown none

end Scripts

/-- What is noted about the lines of a stack has no name of an error. -/
theorem Reader.nameless_ofStack (stack : Text) :
    ∀ event ∈ (ofStack stack).events, event.Nameless := by
  have hrejected : ∀ event ∈ (Sifted.ofStack stack).rejections.map
      (fun rejection => Event.stackLineRejected rejection.1 rejection.2), event.Nameless := by
    intro event hevent
    obtain ⟨rejection, -, rfl⟩ := List.mem_map.1 hevent
    rfl
  rw [ofStack]
  split
  · exact nofun
  · dsimp only
    split
    · intro event hevent
      rcases List.mem_append.1 hevent with hevent | hevent
      · exact hrejected event hevent
      · rw [List.mem_singleton.1 hevent]
        rfl
    · exact hrejected

/-! ### Resolving -/

theorem noted_resolveFrames (settings : Settings) (disk : Disk) (s : Shared) (raws : List RawFrame)
    (course : Course) :
    s.journal.Noted Event.Nameless s.journal.context
      (resolveFrames settings disk s raws course).1.journal := by
  have hscripts : ∀ script ∈ raws.map (resolveFrame settings), script.Notes Event.Nameless := by
    intro script hscript
    obtain ⟨raw, -, rfl⟩ := List.mem_map.1 hscript
    exact notes_resolveFrame settings raw
  have hbegun : s.journal.Noted Event.Nameless s.journal.context
      (s.note (.traceResolving raws.length)).journal := .note rfl rfl
  have hran := hbegun.trans (Pool.noted_run Event.OfCache.nameless disk
    (s.note (.traceResolving raws.length)) settings.run.maxConcurrent s.journal.context hscripts
    course)
  rw [resolveFrames]
  split
  · rename_i s' frames heq
    rw [heq] at hran
    exact hran.trans (.note hran.context rfl)
  · rename_i s' outcome _ heq
    rw [heq] at hran
    exact hran

/-- Whatever the course, nothing with a name of an error of its own is noted while a stack is being
resolved, and nothing outside the row that the resolving was begun in. -/
theorem noted_resolveReader (settings : Settings) (disk : Disk) (s : Shared) (stack : Text)
    (course : Course) :
    s.journal.Noted Event.Nameless s.journal.context
      (resolveReader settings disk s (.ofStack stack) course).1.journal := by
  have hread : s.journal.Noted Event.Nameless s.journal.context
      (s.noteAll (Reader.ofStack stack).events).journal :=
    .noteAll rfl (Reader.nameless_ofStack stack)
  unfold resolveReader
  split
  · exact .refl s.journal
  · dsimp only
    split
    · have hresolved := noted_resolveFrames settings disk (s.noteAll (Reader.ofStack stack).events)
      rw [hread.context] at hresolved
      exact hread.trans (hresolved _ course)
    · exact hread

/-- What is noted about a limit has no name of an error. -/
theorem Deadline.nameless_enforce {ε : Type} (deadline : Deadline)
    (outcome : Option (Except ε α)) : ∀ event ∈ (deadline.enforce outcome).2, event.Nameless := by
  have hlate : ∀ event ∈ [Event.timedOut deadline.limit.toJson], event.Nameless := by
    intro event hevent
    rw [List.mem_singleton.1 hevent]
    rfl
  unfold enforce
  dsimp only
  split
  · exact hlate
  · split
    · exact hlate
    · exact nofun
    · exact nofun

theorem Deadline.enforce_eq_ok {ε : Type} {deadline : Deadline} {outcome : Option (Except ε α)}
    {a : α} (h : (deadline.enforce outcome).1 = .ok a) : outcome = some (.ok a) := by
  unfold enforce at h
  dsimp only at h
  split at h
  · cases h
  · split at h
    · cases h
    · cases h
      rfl
    · cases h

/-! ### Journals of reports -/

/-- Whether a journal is one after a report on an error: no name of an error is bound in it and all
else is bound as before, what was added carries the name of the error, and so does the row of each
read that was given up. -/
structure Journal.Reported (name : Text) (before after : Journal) : Prop where
  context : after.context = Json.Fields.remove errorNameKey before.context
  entries : ∃ entries, after.entries = before.entries ++ entries ∧
    ∀ entry ∈ entries, Json.Fields.get? errorNameKey entry.fields = some (.str name)
  strays : ∃ strays, after.strays = before.strays ++ strays ∧
    ∀ stray ∈ strays, Json.Fields.get? errorNameKey stray.context = some (.str name)

namespace Journal

variable {name : Text} {before after : Journal}

/-- When the name of an error is released after some work, the journal is one after a report. -/
theorem reported_unbind (hstrays : before.strays = [])
    (h : (before.bind errorNameKey (.str name)).Noted Event.Nameless
      (before.bind errorNameKey (.str name)).context after) :
    before.Reported name (after.unbind errorNameKey) := by
  have hname := Json.Fields.get?_put_self errorNameKey (.str name) before.context
  refine ⟨?_, h.get?_fields hname, after.strays, ?_, fun stray hstray => ?_⟩
  · rw [unbind, h.context]
    exact Json.Fields.remove_put errorNameKey (.str name) before.context
  · rw [hstrays]
    rfl
  · have hnone : ∀ stray ∈ before.strays, stray.context = Json.Fields.put errorNameKey (.str name)
        before.context := by
      rw [hstrays]
      exact nofun
    rw [h.strays_eq hnone stray hstray]
    exact hname

/-- The note on a report that was built has the name of the error of itself. -/
theorem Reported.note (h : before.Reported name after) (frames : Nat) :
    before.Reported name (after.note (.reportBuilt name frames)) where
  context := h.context
  entries := by
    obtain ⟨entries, heq, hentries⟩ := h.entries
    refine ⟨entries ++ [⟨.reportBuilt name frames, after.context⟩], ?_, ?_⟩
    · rw [Journal.note, noteIn, heq, List.append_assoc]
    · intro entry hentry
      rcases List.mem_append.1 hentry with hold | hnew
      · exact hentries entry hold
      · rw [List.mem_singleton.1 hnew]
        have hne : errorNameKey ≠ "frames_count".toList := by decide
        exact (Json.Fields.get?_put_of_ne hne _ _).trans (Json.Fields.get?_put_self _ _ _)
  strays := h.strays

/-- The reads that a report gives up come to those that were given up before. -/
theorem Reported.rejoin (h : (before.withStrays []).Reported name after) :
    before.Reported name (after.withStrays (before.strays ++ after.strays)) where
  context := h.context
  entries := h.entries
  strays := by
    obtain ⟨strays, heq, hstrays⟩ := h.strays
    exact ⟨strays, congrArg (before.strays ++ ·) heq, hstrays⟩

end Journal

/-! ### Sources -/

namespace ErrorSource

/-- Whether a source is a description in which the text of a stack is missing. -/
def Stackless (source : ErrorSource) : Prop :=
  ∃ fields, source = .described fields ∧
    ∀ stack, Json.Fields.get? "stack".toList fields ≠ some (.str stack)

/-- Whether a source is an error, or else a description that was sent: a text in JSON was read. -/
def Sent (source : ErrorSource) : Prop :=
  ∀ fields, source = .described fields → ∃ t, Json.parse t = .ok (.obj fields)

end ErrorSource

/-- A value without numbers that are too long to write has a text. -/
theorem exists_presentText {value : Option Json} (h : ∀ v, value = some v → v.isWritable = true)
    (other : Text) : ∃ t, presentText value other = .ok t := by
  cases value with
  | none => exact ⟨other, rfl⟩
  | some value =>
    rw [presentText]
    split
    · exact Json.exists_display (h value rfl)
    · exact ⟨other, rfl⟩

theorem presentText_eq_error {value : Option Json} {other : Text} {fault : NumeralFault}
    (h : presentText value other = .error fault) : fault = .tooLongToWrite := by
  cases value with
  | none => cases h
  | some value =>
    rw [presentText] at h
    split at h
    · exact Json.display_eq_error h
    · cases h

namespace ErrorSource

variable {source : ErrorSource}

theorem notice_of_stackless (h : source.Stackless) : source.notice = .error .stackMissing := by
  obtain ⟨fields, rfl, hstack⟩ := h
  rw [notice, ErrorNotice.ofFields]
  split
  · rename_i stack heq
    exact absurd heq (hstack stack)
  · rfl

/-- A source with a stack tells of an error, unless a number in it is too long to write; no such
number is sent. -/
theorem notice_of_not_stackless (h : ¬ source.Stackless) :
    (∃ notice, source.notice = .ok notice) ∨
      ¬ source.Sent ∧ source.notice = .error (.numeral .tooLongToWrite) := by
  cases source with
  | known error => exact .inl ⟨error, rfl⟩
  | described fields =>
    rw [notice, ErrorNotice.ofFields]
    split
    · by_cases hfields : Json.haveWritable fields = true
      · have hvalues : ∀ key v, Json.Fields.get? key fields = some v → v.isWritable = true :=
          fun key v hv => Json.isWritable_of_get? hfields hv
        obtain ⟨name, hname⟩ := exists_presentText (hvalues "name".toList) "Error".toList
        obtain ⟨message, hmessage⟩ := exists_presentText (hvalues "message".toList) []
        rw [hname, hmessage]
        exact .inl ⟨_, rfl⟩
      · have hsent : ¬ (described fields).Sent := by
          intro hsent
          obtain ⟨t, ht⟩ := hsent fields rfl
          exact hfields (Json.isWritable_of_parse ht)
        cases hname : presentText (Json.Fields.get? "name".toList fields) "Error".toList with
        | error fault =>
          rw [presentText_eq_error hname]
          exact .inr ⟨hsent, rfl⟩
        | ok name =>
          cases hmessage : presentText (Json.Fields.get? "message".toList fields) [] with
          | error fault =>
            rw [presentText_eq_error hmessage]
            exact .inr ⟨hsent, rfl⟩
          | ok message => exact .inl ⟨_, rfl⟩
    · rename_i hstack
      exact absurd ⟨fields, rfl, hstack⟩ h

end ErrorSource

/-! ### Reports -/

/-- To hire a resolver notes nothing. -/
theorem Resolver.journal_orHire (resolver : Option Resolver) (settings : Settings)
    (w : Workplace) : (orHire resolver settings w).2.journal = w.journal := by
  cases resolver <;> rfl

/-- What a resolver makes of a stack. -/
def Resolver.resolve (resolver : Resolver) (disk : Disk) (w : Workplace) (stack : Text)
    (course : Course) : Workplace × Option (Except Failure (List Frame)) :=
  resolver.act w fun s => resolveReader resolver.settings disk s (.ofStack stack) course

/-- A workplace in which the name of an error is bound. -/
def Workplace.bindError (w : Workplace) (name : Text) : Workplace :=
  ⟨w.caches, w.journal.bind errorNameKey (.str name)⟩

namespace Report

/-- What is noted about the end of the resolving, by the reads that were given up and by the limit,
carries the name too. -/
theorem reported_unbindError {ε : Type} {name : Text} {before : Journal}
    (hstrays : before.strays = [])
    (h : (before.bind errorNameKey (.str name)).Noted Event.Nameless
      (before.bind errorNameKey (.str name)).context s.journal)
    (drift : List Nat) (deadline : Deadline) (outcome : Option (Except ε α)) :
    before.Reported name
      ((s.surface disk drift).noteAll (deadline.enforce outcome).2).unbindError.journal := by
  have hnone : ∀ stray ∈ (before.bind errorNameKey (.str name)).strays,
      stray.context = (before.bind errorNameKey (.str name)).context := by
    rw [show (before.bind errorNameKey (.str name)).strays = [] from hstrays]
    exact nofun
  have hsurfaced := h.trans
    (Shared.noted_surface Event.OfCache.nameless disk (h.strays_eq hnone) drift)
  exact Journal.reported_unbind hstrays
    (hsurfaced.trans (.noteAll hsurfaced.context (deadline.nameless_enforce outcome)))

/-- However a report ends, its journal is one after a report on its error. -/
theorem reported_build (hstrays : s.journal.strays = []) (hostVersion : Text)
    (resolving reporting : Settings) (disk : Disk) (notice : ErrorNotice) (course : Course)
    (drift : List Nat) :
    s.journal.Reported notice.name
      (build hostVersion resolving reporting disk s notice course drift).1.journal := by
  have hresolved : ∀ course, (s.bindError notice.name).journal.Noted Event.Nameless
      (s.bindError notice.name).journal.context
      ((s.bindError notice.name).within (s.bindError notice.name).journal.context fun s =>
        resolveReader resolving disk s (.ofStack notice.stack) course).1.journal :=
    fun course => Shared.noted_within _ (noted_resolveReader resolving disk _ notice.stack course)
  rw [build]
  -- the name is released before it matters how the resolving ended
  split
  · exact (reported_unbindError hstrays (hresolved _) drift _ _).note _
  · exact reported_unbindError hstrays (hresolved _) drift _ _
  · exact reported_unbindError hstrays (hresolved _) drift _ _

/-- The trace of a report is what the stack of its error was resolved to. -/
theorem resolveReader_of_build_eq_ok {hostVersion : Text} {resolving reporting : Settings}
    {disk : Disk} {s : Shared} {notice : ErrorNotice} {course : Course} {drift : List Nat}
    {report : Report}
    (h : (build hostVersion resolving reporting disk s notice course drift).2 = .ok report) :
    (resolveReader resolving disk (s.bindError notice.name) (.ofStack notice.stack) course).2 =
      some (.ok report.trace) := by
  rw [build] at h
  split at h
  · rename_i frames heq
    cases h
    have hresolved := Deadline.enforce_eq_ok heq
    split at hresolved
    · cases hresolved
    · exact hresolved
  · cases h
  · cases h

/-- **A report leaves the journal clean.** A description without a stack is refused, and nothing
happens; the same goes for one with a number that is too long to write, but no such description is
ever sent. Any other error has a name; however its report ends, all that is noted for it carries
this name, also by the threads of reads that were given up, and afterwards no name is bound and all
else is bound as before. The trace of the report is what the resolver made of the stack. -/
theorem onError_reported (hostVersion : Text) (fallback : Settings) (disk : Disk) (w : Workplace)
    (source : ErrorSource) (resolver : Option Resolver) (settings : Option Settings)
    (course : Course) (drift : List Nat) :
    (source.Stackless →
      onError hostVersion fallback disk w source resolver settings course drift =
        (w, .error .stackMissing)) ∧
    (¬ source.Stackless →
      (∃ notice, source.notice = .ok notice ∧
        w.journal.Reported notice.name
          (onError hostVersion fallback disk w source resolver settings course drift).1.journal ∧
        ∀ report,
          (onError hostVersion fallback disk w source resolver settings course drift).2 =
              .ok report →
            let hired := Resolver.orHire resolver (settings.getD fallback) w
            (hired.1.resolve disk (hired.2.bindError notice.name) notice.stack course).2 =
              some (.ok report.trace)) ∨
      ¬ source.Sent ∧
        onError hostVersion fallback disk w source resolver settings course drift =
          (w, .error (.numeral .tooLongToWrite))) := by
  refine ⟨fun h => ?_, fun h => ?_⟩
  · rw [onError, ErrorSource.notice_of_stackless h]
  rcases ErrorSource.notice_of_not_stackless h with ⟨notice, hnotice⟩ | ⟨hsent, hnotice⟩
  · left
    have hjournal := Resolver.journal_orHire resolver (settings.getD fallback) w
    rw [onError, hnotice]
    dsimp only
    generalize Resolver.orHire resolver (settings.getD fallback) w = hired at hjournal ⊢
    refine ⟨notice, rfl, ?_, fun report hreport => resolveReader_of_build_eq_ok hreport⟩
    rw [← hjournal]
    exact .rejoin (reported_build (s := hired.2.desk hired.1.cache) rfl hostVersion
      hired.1.settings (settings.getD hired.1.settings) disk notice course drift)
  · right
    refine ⟨hsent, ?_⟩
    rw [onError, hnotice]

/-- A frame is resolved where another name was bound before; time is up while its file is being
read, and the thread goes on under the name; and a stack is missing. -/
theorem onError_reported_rebound :
    let w : Workplace :=
      ⟨[], [(errorNameKey, .str "Error".toList), ("request".toList, .int 7)], [], []⟩
    let error : ErrorNotice :=
      ⟨"TypeError".toList, [], "TypeError\n    at f (/app.js:1:1)".toList⟩
    let made := onError [] .default .empty w (.known error) none none (.full []) []
    let late := onError [] .default .empty w (.known error) none none (.cut [0]) []
    let hired := Resolver.orHire none .default w
    made.1.journal.context = [("request".toList, .int 7)] ∧
      made.1.journal.entries.length = 7 ∧
      (∀ entry ∈ made.1.journal.entries,
        Json.Fields.get? errorNameKey entry.fields = some (.str "TypeError".toList)) ∧
      (∃ report, made.2 = .ok report ∧ report.trace.length = 1 ∧
        (hired.1.resolve .empty (hired.2.bindError error.name) error.stack (.full [])).2 =
          some (.ok report.trace)) ∧
      late.1.journal.strays.map (·.path) = [⟨.slash, ["app.js".toList]⟩] ∧
      (∀ stray ∈ late.1.journal.strays,
        Json.Fields.get? errorNameKey stray.context = some (.str "TypeError".toList)) ∧
      onError [] .default .empty w (.described []) none none (.full []) [] =
        (w, .error .stackMissing) := by
  intro w error made late hired
  have hknown : ¬ (ErrorSource.known error).Stackless := by
    rintro ⟨fields, ⟨⟩, -⟩
  have hdescribed : (ErrorSource.described []).Stackless := ⟨[], rfl, nofun⟩
  have hsent : (ErrorSource.known error).Sent := fun fields hfields => nomatch hfields
  obtain ⟨notice, hnotice, hjournal, htrace⟩ :=
    ((onError_reported [] .default .empty w (.known error) none none (.full []) []).2
      hknown).resolve_right fun h => h.1 hsent
  obtain ⟨notice', hnotice', hlate, -⟩ :=
    ((onError_reported [] .default .empty w (.known error) none none (.cut [0]) []).2
      hknown).resolve_right fun h => h.1 hsent
  obtain rfl : error = notice := Except.ok.inj hnotice
  obtain rfl : error = notice' := Except.ok.inj hnotice'
  obtain ⟨entries, heq, hentries⟩ := hjournal.entries
  obtain ⟨strays, hstrays, hnames⟩ := hlate.strays
  have htraced : made.2.toOption.map (·.trace.length) = some 1 := by decide +kernel
  obtain ⟨report, hreport, hlength⟩ := Option.map_eq_some_iff.1 htraced
  have hmade : made.2 = .ok report := toOption_eq_some.1 hreport
  refine ⟨hjournal.context, by decide +kernel, ?_, ⟨report, hmade, hlength, htrace report hmade⟩,
    by decide +kernel, ?_,
    (onError_reported [] .default .empty w (.described []) none none (.full []) []).1 hdescribed⟩
  · intro entry hentry
    rw [heq] at hentry
    exact hentries entry hentry
  · intro stray hstray
    rw [hstrays] at hstray
    exact hnames stray hstray

end Report

end Retrace

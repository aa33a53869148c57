import Retrace.Proofs.Outcome
import Retrace.Settings.Load

/-!
# Settings that are loaded

A value of the settings was checked where it was given, and the values that stand for those that
were not given pass the same checks. So settings that were loaded, from variables or from a file,
can be used as they are: there is room for a frame at a time, a trace has some time and no more than
the longest, a snippet has lines around its own, and what components link to is on the web.

* `Settings.Sound`: settings within the bounds of their checks;
* `entryOr_sound`, `sectionOf_sound`: what holds of a value that is accepted;
* `RunSettings.sound_of_ofDatum`, `webLinks_of_componentsOfDatum`: two sections.

Main statement: `Settings.sound_of_load`.
-/

namespace Retrace

/-! ### Checks -/

namespace Checked

variable {α β : Type}

theorem under_eq_ok {step : PlaceStep} {check : Checked α} {a : α} :
    check.under step = .ok a ↔ check = .ok a := by
  cases check <;> simp [under]

theorem ofExcept_eq_ok {outcome : Except ValueFlaw α} {a : α} :
    ofExcept outcome = .ok a ↔ outcome = .ok a := by
  cases outcome <;> simp [ofExcept]

/-- Every value of a list that is accepted was accepted. -/
theorem mem_of_all_eq_ok {checks : List (Checked α)} {values : List α}
    (h : all checks = .ok values) {a : α} (ha : a ∈ values) : .ok a ∈ checks := by
  induction checks generalizing values with
  | nil =>
    cases h
    cases ha
  | cons check rest ih =>
    obtain ⟨⟨first, others⟩, hboth, rfl⟩ := map_eq_ok.1 h
    obtain ⟨hfirst, hothers⟩ := both_eq_ok.1 hboth
    rcases List.mem_cons.1 ha with rfl | ha
    · exact hfirst ▸ List.mem_cons_self
    · exact List.mem_cons_of_mem _ (ih hothers ha)

end Checked

section Entries

variable {α : Type} (P : α → Prop) {a : α}

/-- What holds of the value that stands for a missing one, and of every value that is accepted,
holds of the value of an entry. -/
theorem entryOr_sound {entries : Entries} {name : String} {other : α} {check : Datum → Checked α}
    (hother : P other) (hcheck : ∀ datum a, check datum = .ok a → P a)
    (h : entryOr entries name other check = .ok a) : P a := by
  unfold entryOr at h
  split at h
  · exact hcheck _ _ (Checked.under_eq_ok.1 h)
  · cases h
    exact hother

theorem sectionOf_sound {name : String} {check : Entries → Checked α}
    (hcheck : ∀ entries a, check entries = .ok a → P a) {datum : Datum}
    (h : sectionOf name check datum = .ok a) : P a := by
  unfold sectionOf at h
  split at h
  · exact hcheck _ _ h
  · cases h

end Entries

/-- A decimal that is accepted is above zero and within its bound. -/
theorem Datum.decimalUpTo_eq_ok {most : Nat} {datum : Datum} {x : Binary64} :
    datum.decimalUpTo most = .ok x ↔
      datum.decimal = .ok x ∧ x.isPositive = true ∧ x.atMost most = true := by
  unfold decimalUpTo
  cases datum.decimal with
  | error flaw => simp
  | ok y =>
    dsimp only
    cases hmost : y.atMost most with
    | false =>
      refine iff_of_false (by simp) ?_
      rintro ⟨⟨⟩, -, hx⟩
      rw [hmost] at hx
      cases hx
    | true =>
      cases hpositive : y.isPositive with
      | false =>
        refine iff_of_false (by simp) ?_
        rintro ⟨⟨⟩, hx, -⟩
        rw [hpositive] at hx
        cases hx
      | true =>
        simp only [Bool.not_true, Bool.false_eq_true, if_false, Except.ok.injEq]
        constructor
        · rintro rfl
          exact ⟨rfl, hpositive, hmost⟩
        · exact fun h => h.1

/-! ### Sections -/

/-- Whether a number of lines around the line of a snippet is within bounds. -/
def ContextLinesSound (lines : Nat) : Prop := 1 ≤ lines ∧ lines ≤ Settings.mostContextLines

/-- Whether how much is done at a time, and how long, is within bounds. -/
structure RunSettings.Sound (run : RunSettings) : Prop where
  maxConcurrent : 1 ≤ run.maxConcurrent ∧ run.maxConcurrent ≤ mostConcurrent
  resolutionTimeout : run.resolutionTimeout.isPositive = true ∧
    run.resolutionTimeout.atMost mostSeconds = true

theorem RunSettings.sound_default : RunSettings.default.Sound :=
  ⟨by decide, by decide⟩

theorem RunSettings.sound_of_ofDatum (datum : Datum) (run : RunSettings)
    (h : ofDatum datum = .ok run) : run.Sound := by
  refine sectionOf_sound Sound (fun entries run hrun => ?_) h
  obtain ⟨⟨maxConcurrent, resolutionTimeout⟩, hboth, rfl⟩ := map_eq_ok.1 hrun
  obtain ⟨hmany, hlong⟩ := Checked.both_eq_ok.1 hboth
  constructor
  · refine entryOr_sound (fun n => 1 ≤ n ∧ n ≤ mostConcurrent) sound_default.maxConcurrent
      (fun datum n hn => ?_) hmany
    exact (Datum.wholeWithin_eq_ok.1 (Checked.ofExcept_eq_ok.1 hn)).2
  · refine entryOr_sound (fun x => x.isPositive = true ∧ x.atMost mostSeconds = true)
      sound_default.resolutionTimeout (fun datum x hx => ?_) hlong
    exact (Datum.decimalUpTo_eq_ok.1 (Checked.ofExcept_eq_ok.1 hx)).2

theorem contextLinesSound_of_ofDatum (datum : Datum) (lines : Nat)
    (h : Settings.contextLinesOfDatum datum = .ok lines) : ContextLinesSound lines := by
  refine sectionOf_sound ContextLinesSound (fun entries lines hlines => ?_) h
  refine entryOr_sound ContextLinesSound ⟨by decide, by decide⟩ (fun datum n hn => ?_) hlines
  exact (Datum.wholeWithin_eq_ok.1 (Checked.ofExcept_eq_ok.1 hn)).2

theorem Component.isWebLink_of_ofDatum (datum : Datum) (component : Component)
    (h : ofDatum datum = .ok component) : isWebLink component.docs = true := by
  refine sectionOf_sound (fun component => isWebLink component.docs = true)
    (fun entries component hcomponent => ?_) h
  obtain ⟨⟨version, docs⟩, hboth, rfl⟩ := map_eq_ok.1 hcomponent
  have hdocs := (Checked.both_eq_ok.1 hboth).2
  unfold entry at hdocs
  split at hdocs
  · have hlink := Checked.ofExcept_eq_ok.1 (Checked.under_eq_ok.1 hdocs)
    unfold linkOf at hlink
    split at hlink
    · split at hlink
      · rename_i hweb
        cases hlink
        exact hweb
      · cases hlink
    · cases hlink
  · cases hdocs

/-- Whether the links of components lead to the web. -/
def WebLinks (components : List (Text × Component)) : Prop :=
  ∀ named ∈ components, Component.isWebLink named.2.docs = true

theorem webLinks_of_componentsOfDatum (datum : Datum) (components : List (Text × Component))
    (h : componentsOfDatum datum = .ok components) : WebLinks components := by
  unfold componentsOfDatum at h
  split at h
  · intro named hnamed
    obtain ⟨entry, -, hentry⟩ := List.mem_map.1 (Checked.mem_of_all_eq_ok h hnamed)
    have hboth := Checked.both_eq_ok.1 (Checked.under_eq_ok.1 hentry)
    exact Component.isWebLink_of_ofDatum _ _ hboth.2
  · cases h

/-! ### All settings -/

namespace Settings

/-- Whether settings are within the bounds of their checks. -/
structure Sound (settings : Settings) : Prop where
  contextLines : ContextLinesSound settings.contextLines
  run : settings.run.Sound
  components : WebLinks settings.components

theorem sound_of_ofEntries {entries : Entries} {settings : Settings}
    (h : ofEntries entries = .ok settings) : settings.Sound := by
  obtain ⟨⟨paths, contextLines, run, log, components⟩, hall, rfl⟩ := map_eq_ok.1 h
  obtain ⟨-, hrest⟩ := Checked.both_eq_ok.1 hall
  obtain ⟨hlines, hrest⟩ := Checked.both_eq_ok.1 hrest
  obtain ⟨hrun, hrest⟩ := Checked.both_eq_ok.1 hrest
  obtain ⟨-, hcomponents⟩ := Checked.both_eq_ok.1 hrest
  refine ⟨?_, ?_, ?_⟩
  · exact entryOr_sound ContextLinesSound ⟨by decide, by decide⟩ contextLinesSound_of_ofDatum hlines
  · exact entryOr_sound RunSettings.Sound RunSettings.sound_default
      RunSettings.sound_of_ofDatum hrun
  · have hnone : WebLinks default.components := fun named hnamed => absurd hnamed List.not_mem_nil
    exact entryOr_sound WebLinks hnone webLinks_of_componentsOfDatum hcomponents

theorem sound_of_gather {env : Variables} {given : Entries} {settings : Settings}
    (h : gather env given = .ok settings) : settings.Sound := by
  unfold gather at h
  split at h
  · cases h
  · unfold ofSections at h
    split at h
    · rename_i hentries
      cases h
      exact sound_of_ofEntries hentries
    · cases h

/-- **Settings that are loaded are sound**, whatever is in the variables and in the file. -/
theorem sound_of_load {env : Variables} {file : Option SettingsFile} {settings : Settings}
    (h : load env file = .ok settings) : settings.Sound := by
  unfold load at h
  split at h
  · exact sound_of_gather h
  · cases h
  · obtain ⟨entries, -, h⟩ := bind_eq_ok.1 h
    split at h
    · cases h
    · exact sound_of_gather h

end Settings

end Retrace

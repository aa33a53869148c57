import Retrace.Proofs.SourceMap.Locate

/-!
# Candid scripts

A script that asks for files may meet one that refuses. It is candid if it then ends with that
refusal, and with no other: whatever else goes wrong on the way, or is dealt with there, no refusal
is made up or covered up. All the scripts that lead to a frame are candid.

* `Computed`: outcomes that are not the refusal of a file, which is all that can be computed without
  asking for one;
* `Script.Candid`;
* `Candid.andThen`, `Candid.bind`: a script that goes on after another stays candid as long as it
  hands refusals on.

Main statement: `candid_resolveFrame`.
-/

namespace Retrace

variable {disk : Disk}

/-! ### Outcomes that are computed -/

/-- Whether an outcome is not the refusal of a file. -/
def Computed {α : Type} (outcome : Except Failure α) : Prop :=
  ∀ access path errno, outcome ≠ .error (.unreadable access path errno)

section Computed

variable {ε α β : Type}

theorem computed_ok (a : α) : Computed (.ok a : Except Failure α) := by
  rintro access path errno ⟨⟩

theorem computed_bind {first : Except Failure α} {next : α → Except Failure β}
    (h : Computed first) (hnext : ∀ a, Computed (next a)) : Computed (first >>= next) := by
  intro access path errno heq
  rcases bind_eq_error.1 heq with hfirst | ⟨a, -, hsecond⟩
  · exact h access path errno hfirst
  · exact hnext a access path errno hsecond

theorem computed_map {outcome : Except Failure α} (h : Computed outcome) (f : α → β) :
    Computed (outcome.map f) := by
  cases outcome with
  | ok a => exact computed_ok _
  | error failure =>
    rintro access path errno ⟨⟩
    exact h access path errno rfl

/-- To rename faults makes no refusal, if none is named so. -/
theorem computed_mapError {rename : ε → Failure}
    (h : ∀ fault access path errno, rename fault ≠ .unreadable access path errno)
    (outcome : Except ε α) : Computed (outcome.mapError rename) := by
  cases outcome with
  | ok a => exact computed_ok a
  | error fault =>
    intro access path errno heq
    exact h fault access path errno (Except.error.inj heq)

/-- A refusal does not make a source map count as absent. -/
theorem Caught.computed {outcome : Except Failure α} (h : Caught outcome) : Computed outcome := by
  rintro access path errno rfl
  cases h _ rfl

theorem computed_splitUrl (url : Text) : Computed (splitUrl url) :=
  computed_mapError (by rintro _ _ _ _ ⟨⟩) _

theorem ofLink_ne_unreadable (fault : LinkFault) (access : FileAccess) (path : Path) (errno : Nat) :
    Failure.ofLink fault ≠ .unreadable access path errno := by
  cases fault <;> rintro ⟨⟩

theorem ofPath_ne_unreadable (fault : PathFault) (access : FileAccess) (path : Path) (errno : Nat) :
    Failure.ofPath fault ≠ .unreadable access path errno := by
  cases fault with
  | unresolved fault => exact ofLink_ne_unreadable fault access path errno
  | outside urlPath => rintro ⟨⟩

section Resolved

variable (resolve : Path → Except LinkFault Path)

theorem computed_fileUnderBy (root : Path) (urlPath : Text) :
    Computed (fileUnderBy resolve root urlPath) :=
  computed_mapError ofPath_ne_unreadable _

theorem computed_ofRawBy (settings : Settings) (raw : RawFrame) :
    Computed (Target.ofRawBy resolve settings raw) := by
  rw [Target.ofRawBy]
  split
  · exact computed_ok _
  · refine computed_bind (computed_splitUrl _) fun url => ?_
    split
    · refine computed_bind (computed_mapError ofLink_ne_unreadable _) fun root => ?_
      split
      · exact computed_ok _
      · exact computed_ok _
      · rename_i fault _
        intro access path errno heq
        exact ofLink_ne_unreadable fault access path errno (Except.error.inj heq)
    · exact computed_bind (computed_mapError ofLink_ne_unreadable _) fun root => computed_ok _

theorem computed_referencePathBy (reference : Text) (bundle : Path) (root : Option Path) :
    Computed (referencePathBy resolve reference bundle root) := by
  rw [referencePathBy]
  split
  · rintro access path errno ⟨⟩
  · refine computed_bind (computed_splitUrl _) fun url => ?_
    split
    · cases root with
      | none => rintro access path errno ⟨⟩
      | some root => exact computed_fileUnderBy resolve root _
    · split
      · exact computed_ok _
      · split
        · rintro access path errno ⟨⟩
        · cases root with
          | none => exact computed_ok _
          | some root =>
            dsimp only
            split
            · exact computed_fileUnderBy resolve root _
            · exact computed_ok _

end Resolved

theorem computed_sourceFile? (bundle : Path) (source : Text) :
    Computed (sourceFile? bundle source) := by
  refine computed_bind (computed_splitUrl source) fun url => ?_
  split
  · exact computed_ok _
  · split <;> exact computed_ok _

theorem SourceMap.computed_linesOf (counts : Mappings.Counts) (table : Text) :
    Computed (linesOf counts table) := by
  rw [linesOf]
  split
  · exact computed_ok _
  · split <;> rintro access path errno ⟨⟩

theorem SourceMap.computed_ofBytes (bytes : Bytes) : Computed (ofBytes bytes) := by
  rw [ofBytes]
  split
  · rw [ofText]
    split
    · rename_i value _
      cases value with
      | obj fields =>
        show Computed (ofFields fields)
        rcases carried_or_flawed fields with ⟨p, hp⟩ | hflaw
        · rw [ofFields_of_carried hp]
          exact computed_map (computed_linesOf _ _) _
        · exact hflaw.caught.computed
      | _ => rintro access path errno ⟨⟩
    all_goals rintro access path errno ⟨⟩
  · rintro access path errno ⟨⟩

theorem SourceMap.computed_ofDataUrl (url : Text) : Computed (ofDataUrl url) :=
  computed_bind (caught_dataUrlBytes url).computed computed_ofBytes

end Computed

/-! ### Scripts that hand refusals on -/

namespace Script

variable {α β : Type}

/-- Whether a script ends with a refusal exactly if a file that it asks for refuses. -/
def Candid (disk : Disk) (script : Script Failure α) : Prop :=
  ∀ access path errno, script.result disk = .error (.unreadable access path errno) ↔
    path ∈ script.asked disk ∧ disk.read path = .refused access errno

/-- A script that asks for nothing is candid. -/
theorem candid_of_asked {script : Script Failure α} (hasked : script.asked disk = [])
    (h : Computed (script.result disk)) : script.Candid disk := by
  intro access path errno
  rw [hasked]
  exact iff_of_false (h access path errno) fun hmem => List.not_mem_nil hmem.1

theorem candid_ofExcept (disk : Disk) {outcome : Except Failure α} (h : Computed outcome) :
    (ofExcept outcome).Candid disk := candid_of_asked rfl h

theorem candid_pure (disk : Disk) (a : α) : (pure a : Script Failure α).Candid disk :=
  candid_of_asked rfl (computed_ok a)

theorem candid_notingAll (disk : Disk) (events : List Event) :
    (notingAll events : Script Failure Unit).Candid disk :=
  candid_of_asked (asked_notingAll disk events) (by rw [result_notingAll]; exact computed_ok ())

theorem candid_noting (disk : Disk) (event : Event) :
    (noting event : Script Failure Unit).Candid disk := candid_notingAll disk [event]

theorem candid_fetching (disk : Disk) (path : Path) : (fetching path).Candid disk := by
  intro access other errno
  rw [result_fetching, asked_fetching, List.mem_singleton, Disk.fetched]
  cases hread : disk.read path.absolute with
  | refused access' errno' =>
    constructor
    · rintro ⟨⟩
      exact ⟨rfl, hread⟩
    · rintro ⟨rfl, h⟩
      rw [hread] at h
      cases h
      rfl
  | _ =>
    refine iff_of_false (by rintro ⟨⟩) ?_
    rintro ⟨rfl, h⟩
    rw [hread] at h
    cases h

/-- A script that goes on after another is candid if it hands the refusals of the other on. -/
theorem Candid.andThen {script : Script Failure α} {next : Except Failure α → Script Failure β}
    (h : script.Candid disk)
    (hhanded : ∀ access path errno, next (.error (.unreadable access path errno)) =
      .done (.error (.unreadable access path errno)))
    (hnext : ∀ outcome, Computed outcome → (next outcome).Candid disk) :
    (script.andThen next).Candid disk := by
  intro access path errno
  rw [result_andThen, asked_andThen, List.mem_append]
  by_cases hcomputed : Computed (script.result disk)
  · -- nothing was refused so far, so the rest decides
    have hnone : ¬ (path ∈ script.asked disk ∧ disk.read path = .refused access errno) :=
      fun hasked => hcomputed access path errno ((h access path errno).2 hasked)
    rw [hnext _ hcomputed access path errno]
    tauto
  · obtain ⟨access', path', errno', hrefused⟩ : ∃ access' path' errno',
        script.result disk = .error (.unreadable access' path' errno') := by
      simpa [Computed] using hcomputed
    have hfirst := h access path errno
    rw [hrefused, Except.error.injEq] at hfirst
    rw [hrefused, hhanded, result, asked, Except.error.injEq, hfirst]
    simp

theorem Candid.bind {script : Script Failure α} {next : α → Script Failure β}
    (h : script.Candid disk) (hnext : ∀ a, (next a).Candid disk) :
    (script >>= next).Candid disk := by
  refine h.andThen (fun access path errno => rfl) fun outcome houtcome => ?_
  cases outcome with
  | ok a => exact hnext a
  | error failure =>
    refine candid_ofExcept disk ?_
    rintro access path errno ⟨⟩
    exact houtcome access path errno rfl

end Script

open Script

theorem candid_fetchingText (disk : Disk) (path : Path) : (fetchingText path).Candid disk :=
  (candid_fetching disk path).bind fun _ => candid_pure disk _

namespace SourceMap

theorem candid_load (disk : Disk) (reference : Text) (bundle : Path) (root : Option Path) :
    (load reference bundle root).Candid disk := by
  refine (candid_ofExcept disk (computed_referencePathBy _ _ _ _)).bind fun path => ?_
  refine (candid_fetching disk path).bind fun found => ?_
  cases found with
  | none => exact candid_ofExcept disk (by rintro access path errno ⟨⟩)
  | some bytes => exact candid_ofExcept disk (computed_ofBytes bytes)

theorem candid_follow (disk : Disk) (reference : Text) (bundle : Path) (root : Option Path) :
    (follow reference bundle root).Candid disk := by
  rw [follow]
  split
  · exact candid_ofExcept disk (computed_ofDataUrl reference)
  · exact candid_load disk reference bundle root

/-- A map counts as absent for many reasons, but not because a file refuses. -/
theorem candid_locate (disk : Disk) (text : Text) (bundle : Path) (root : Option Path) :
    (locate text bundle root).Candid disk := by
  rw [locate]
  split
  · exact (candid_noting disk _).bind fun _ => candid_pure disk none
  · refine (candid_follow disk _ bundle root).andThen (fun _ _ _ => rfl) fun outcome houtcome => ?_
    split
    · exact (candid_noting disk _).bind fun _ => candid_pure disk _
    · split
      · exact (candid_noting disk _).bind fun _ => candid_pure disk none
      · refine candid_ofExcept disk ?_
        rintro access path errno ⟨⟩
        exact houtcome access path errno rfl

end SourceMap

theorem candid_sourceText (disk : Disk) (bundle : Path) (map : SourceMap) (place : SourcePlace) :
    (sourceText bundle map place).Candid disk := by
  rw [sourceText]
  split
  · exact candid_pure disk _
  · refine (candid_ofExcept disk (computed_sourceFile? _ _)).bind fun path? => ?_
    cases path? with
    | none => exact candid_pure disk none
    | some path => exact candid_fetchingText disk path

theorem candid_resolveMapped (disk : Disk) (settings : Settings) (raw : RawFrame) (bundle : Path)
    (map : SourceMap) : (resolveMapped settings raw bundle map).Candid disk := by
  refine (candid_ofExcept disk (computed_mapError (by rintro _ _ _ _ ⟨⟩) _)).bind fun place? => ?_
  cases place? with
  | none => exact (candid_noting disk _).bind fun _ => candid_pure disk none
  | some place =>
    refine (candid_sourceText disk bundle map place).bind fun text? => ?_
    cases text? with
    | none => exact (candid_noting disk _).bind fun _ => candid_pure disk _
    | some text => exact candid_pure disk _

theorem candid_unresolved (disk : Disk) (raw : RawFrame) (kind : TargetKind) :
    (unresolved raw kind).Candid disk :=
  (candid_noting disk _).bind fun _ => candid_pure disk _

theorem candid_resolveFile (disk : Disk) (settings : Settings) (raw : RawFrame) (kind : TargetKind)
    (file : Path) (shown : Text) (root : Option Path) :
    (resolveFile settings raw kind file shown root).Candid disk := by
  refine (candid_fetchingText disk file).bind fun text? => ?_
  split
  · refine (SourceMap.candid_locate disk _ file root).bind fun map? => ?_
    cases map? with
    | none => exact (candid_pure disk none).bind fun _ => candid_pure disk _
    | some map =>
      exact (candid_resolveMapped disk settings raw file map).bind fun _ => candid_pure disk _
  · exact candid_unresolved disk raw kind

/-- A raw frame ends with a refusal exactly if a file that it asks for refuses. -/
theorem candid_resolveFrame (disk : Disk) (settings : Settings) (raw : RawFrame) :
    (resolveFrame settings raw).Candid disk := by
  refine (candid_ofExcept disk (computed_ofRawBy Path.resolve settings raw)).bind fun target => ?_
  refine (candid_notingAll disk _).bind fun _ => ?_
  cases target with
  | nowhere => exact candid_pure disk _
  | outside cause => exact candid_unresolved disk raw .bundle
  | served root file => exact candid_resolveFile disk settings raw .bundle file _ (some root)
  | stored file shown => exact candid_resolveFile disk settings raw .file file shown none

end Retrace

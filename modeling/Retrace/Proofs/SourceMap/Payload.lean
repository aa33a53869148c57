import Retrace.Proofs.Outcome
import Retrace.Proofs.SourceMap.Mappings
import Retrace.SourceMap.Payload

/-!
# What a payload says

The fields of a payload either say something or have a flaw, and a payload that says something makes
a source map as soon as its table can be read. Almost everything that is wrong with a payload makes
the map count as absent. What does not is listed: a numeral of too many digits, brackets too deep
inside one another, and an index out of range that is too long to be told.

* `Payload`, `Payload.Carried`: what fields say;
* `Caught`, `Flawed`: outcomes that at worst leave a map out, and those that do so for a flaw in it;
* `SourceMap.PayloadHazard`: the bytes that come to something else.

Main statements: `ofFields_of_carried`, `carried_or_flawed` and `caught_ofBytes_iff`.
-/

namespace Retrace

/-- Whether an outcome is a value or a failure that makes a source map count as absent. -/
def Caught {α : Type} (outcome : Except Failure α) : Prop :=
  ∀ failure, outcome = .error failure → failure.leavesMapOut = true

section Caught

variable {α β : Type}

@[simp] theorem caught_ok (a : α) : Caught (.ok a : Except Failure α) := by simp [Caught]

@[simp] theorem caught_error {failure : Failure} :
    Caught (.error failure : Except Failure α) ↔ failure.leavesMapOut = true :=
  ⟨fun h => h failure rfl, fun h _ heq => by cases heq; exact h⟩

theorem caught_bind {first : Except Failure α} {next : α → Except Failure β} :
    Caught (first >>= next) ↔ Caught first ∧ ∀ a, first = .ok a → Caught (next a) := by
  cases first with
  | error failure => simp
  | ok a => simp

theorem caught_map {first : Except Failure α} (f : α → β) :
    Caught (first.map f) ↔ Caught first := by
  cases first with
  | error failure => simp [Except.map]
  | ok a => simp [Except.map]

/-- Whether an outcome is a flaw of a source map. -/
def Flawed (outcome : Except Failure α) : Prop := ∃ flaw, outcome = .error (.undecodable flaw)

theorem Flawed.caught {outcome : Except Failure α} (h : Flawed outcome) : Caught outcome := by
  obtain ⟨flaw, rfl⟩ := h
  exact caught_error.2 rfl

theorem Flawed.ne_ok {outcome : Except Failure α} (h : Flawed outcome) (a : α) :
    outcome ≠ .ok a := by
  obtain ⟨flaw, rfl⟩ := h
  rintro ⟨⟩

/-- A flaw is not undone by what comes after it. -/
theorem Flawed.bind {first : Except Failure α} (h : Flawed first) (next : α → Except Failure β) :
    Flawed (first >>= next) := by
  obtain ⟨flaw, rfl⟩ := h
  exact ⟨flaw, rfl⟩

end Caught

/-! ### What fields say -/

/-- The value under a key, `null` if there is none. -/
def Json.Fields.valueOf (key : String) (fields : Json.Fields) : Json :=
  (Json.Fields.get? key.toList fields).getD .null

theorem Json.Fields.getD_get? (key : String) (fields : Json.Fields) :
    (Json.Fields.get? key.toList fields).getD .null = fields.valueOf key := rfl

/-- The value of a text that there need not be. -/
def Json.ofText? : Option Text → Json
  | some t => .str t
  | none => .null

/-- Whether a value lists entries; `null` lists none. -/
inductive Json.Lists {α : Type} (write : α → Json) : Json → List α → Prop
  | null : Lists write .null []
  | arr (entries : List α) : Lists write (.arr (entries.map write)) entries

/-- Whether a value gives the root of sources; one that does not count as present gives none. -/
inductive Json.GivesRoot : Json → Text → Prop
  | text (t : Text) : GivesRoot (.str t) t
  | absent {value : Json} (h : value.isTruthy = false) : GivesRoot value []

/-- What a payload of version 3 says. -/
structure Payload where
  sources : List Text
  names : List Text
  contents : List (Option Text)
  sourceRoot : Text
  file : Option Text
  table : Text

namespace Payload

/-- Whether fields say what a payload says. -/
structure Carried (p : Payload) (fields : Json.Fields) : Prop where
  version : fields.valueOf "version" = .int 3
  hasSources : (Json.Fields.get? "sources".toList fields).isSome
  sources : Json.Lists .str (fields.valueOf "sources") p.sources
  names : Json.Lists .str (fields.valueOf "names") p.names
  contents : Json.Lists .ofText? (fields.valueOf "sourcesContent") p.contents
  sourceRoot : Json.GivesRoot (fields.valueOf "sourceRoot") p.sourceRoot
  file : fields.valueOf "file" = .ofText? p.file
  table : fields.valueOf "mappings" = .str p.table

/-- How many sources and names there are. -/
def counts (p : Payload) : Mappings.Counts := ⟨some p.sources.length, some p.names.length⟩

/-- The source map of a payload with the lines of its table. -/
def toMap (p : Payload) (lines : List (List Segment)) : SourceMap :=
  ⟨3, p.sources, p.table, SourceMap.fitted p.sources.length p.contents, p.names, p.sourceRoot,
    p.file, lines⟩

end Payload

namespace SourceMap

variable {fields : Json.Fields} {p : Payload}

section Entries

variable {α : Type} {accept : Json → Option α} {write : α → Json}

theorem textEntry?_eq_some {value : Json} {t : Text} :
    textEntry? value = some t ↔ value = .str t := by
  cases value <;> simp [ textEntry?]

theorem contentEntry?_eq_some {value : Json} {t : Option Text} :
    contentEntry? value = some t ↔ value = .ofText? t := by
  cases t <;> cases value <;> simp [ contentEntry?, Json.ofText?]

/-- The entries of a list are those that it was made of. -/
theorem mapM_entries (haccept : ∀ value entry, accept value = some entry ↔ value = write entry)
    (key : Text) (entries : List α) :
    ((entries.map write).mapM fun item =>
      match accept item with
      | some entry => (.ok entry : Except Failure α)
      | none => .error (.undecodable (.entryNotText key item))) = .ok entries := by
  induction entries with
  | nil => rfl
  | cons entry rest ih =>
    rw [List.map_cons, List.mapM_cons, ih, (haccept _ entry).2 rfl]
    rfl

/-- A list has entries throughout, or one of its items is a flaw. -/
theorem mapM_items (haccept : ∀ value entry, accept value = some entry ↔ value = write entry)
    (key : Text) (items : List Json) :
    (∃ entries : List α, items = entries.map write) ∨ Flawed
      (items.mapM fun item =>
        match accept item with
        | some entry => (.ok entry : Except Failure α)
        | none => .error (.undecodable (.entryNotText key item))) := by
  induction items with
  | nil => exact .inl ⟨[], rfl⟩
  | cons item rest ih =>
    rw [List.mapM_cons]
    cases hitem : accept item with
    | none => exact .inr ⟨.entryNotText key item, rfl⟩
    | some entry =>
      rcases ih with ⟨entries, rfl⟩ | hflaw
      · refine .inl ⟨entry :: entries, ?_⟩
        rw [(haccept item entry).1 hitem, List.map_cons]
      · exact .inr (hflaw.bind _)

theorem entriesOf_of_lists
    (haccept : ∀ value entry, accept value = some entry ↔ value = write entry)
    {key : String} {entries : List α} (h : Json.Lists write (fields.valueOf key) entries) :
    entriesOf key.toList accept fields = .ok entries := by
  rw [Json.Fields.valueOf] at h
  rw [entriesOf]
  generalize (Json.Fields.get? key.toList fields).getD .null = value at h
  -- a key without a value counts as `null`
  cases h with
  | null => rfl
  | arr entries => exact mapM_entries haccept key.toList entries

theorem lists_or_flawed
    (haccept : ∀ value entry, accept value = some entry ↔ value = write entry)
    (key : String) (fields : Json.Fields) :
    (∃ entries : List α, Json.Lists write (fields.valueOf key) entries) ∨
      Flawed (entriesOf key.toList accept fields) := by
  rw [Json.Fields.valueOf, entriesOf]
  cases (Json.Fields.get? key.toList fields).getD .null with
  | null => exact .inl ⟨[], .null⟩
  | arr items =>
    rcases mapM_items haccept key.toList items with ⟨entries, rfl⟩ | hflaw
    · exact .inl ⟨entries, .arr entries⟩
    · exact .inr hflaw
  | bool value => exact .inr ⟨_, rfl⟩
  | int value => exact .inr ⟨_, rfl⟩
  | float value => exact .inr ⟨_, rfl⟩
  | str value => exact .inr ⟨_, rfl⟩
  | obj value => exact .inr ⟨_, rfl⟩

end Entries

theorem sourceRootOf_of_givesRoot {value : Json} {root : Text} (h : value.GivesRoot root) :
    sourceRootOf value = .ok root := by
  cases h with
  | text t => rfl
  | absent hvalue =>
    cases value <;> simp_all [sourceRootOf, Json.isTruthy]

theorem givesRoot_or_flawed (value : Json) :
    (∃ root, value.GivesRoot root) ∨ Flawed (sourceRootOf value) := by
  by_cases htruthy : value.isTruthy = true
  · cases value with
    | str t => exact .inl ⟨t, .text t⟩
    | _ => exact .inr ⟨.sourceRootNotText, if_pos htruthy⟩
  · exact .inl ⟨[], .absent (by simpa using htruthy)⟩

theorem fileOf_ofText? (file : Option Text) : fileOf (.ofText? file) = .ok file := by
  cases file <;> rfl

/-- Fields that say something make a source map if the table can be read. -/
theorem ofFields_of_carried (h : p.Carried fields) :
    ofFields fields = (linesOf p.counts p.table).map p.toMap := by
  have hsome : (Json.Fields.get? "sources".toList fields).isNone = false := by
    simpa using h.hasSources
  simp only [ofFields, Json.Fields.getD_get?]
  simp only [h.version, h.table, sourceRootOf_of_givesRoot h.sourceRoot, h.file, hsome,
    fileOf_ofText?, entriesOf_of_lists (fun _ _ => textEntry?_eq_some) h.sources,
    entriesOf_of_lists (fun _ _ => textEntry?_eq_some) h.names,
    entriesOf_of_lists (fun _ _ => contentEntry?_eq_some) h.contents, versionOf, ok_bind, if_true,
    Bool.false_eq_true, if_false]
  show (linesOf p.counts p.table >>= fun lines => .ok (p.toMap lines)) = _
  cases linesOf p.counts p.table <;> rfl

theorem versionOf_or_flawed (value : Json) :
    value = .int 3 ∨ Flawed (versionOf value) := by
  cases value with
  | int version =>
    by_cases h : version = 3
    · exact .inl (congrArg Json.int h)
    · exact .inr ⟨.versionUnsupported version, if_neg h⟩
  | _ => exact .inr ⟨_, rfl⟩

theorem ofText?_or_flawed (value : Json) :
    (∃ file, value = .ofText? file) ∨ Flawed (fileOf value) := by
  cases value with
  | null => exact .inl ⟨none, rfl⟩
  | str t => exact .inl ⟨some t, rfl⟩
  | _ => exact .inr ⟨_, rfl⟩

/-- Fields that say nothing have a flaw. -/
theorem carried_or_flawed (fields : Json.Fields) :
    (∃ p : Payload, p.Carried fields) ∨ Flawed (ofFields fields) := by
  refine or_iff_not_imp_left.2 fun hnone => ?_
  simp only [ofFields, Json.Fields.getD_get?]
  -- the checks in their order: each one has a flaw to tell or is passed
  rcases versionOf_or_flawed (fields.valueOf "version") with hversion | hflaw
  swap
  · exact hflaw.bind _
  rw [hversion, versionOf, if_pos rfl, ok_bind]
  by_cases hsome : (Json.Fields.get? "sources".toList fields).isNone = true
  · exact ⟨.sourcesMissing, if_pos hsome⟩
  rw [if_neg hsome]
  split
  swap
  · exact ⟨.mappingsNotText, rfl⟩
  rename_i table htable
  rcases lists_or_flawed (fun _ _ => textEntry?_eq_some) "sources" fields with
    ⟨sources, hsources⟩ | hflaw
  swap
  · exact hflaw.bind _
  rw [entriesOf_of_lists (fun _ _ => textEntry?_eq_some) hsources, ok_bind]
  rcases lists_or_flawed (fun _ _ => textEntry?_eq_some) "names" fields with
    ⟨names, hnames⟩ | hflaw
  swap
  · exact hflaw.bind _
  rw [entriesOf_of_lists (fun _ _ => textEntry?_eq_some) hnames, ok_bind]
  rcases lists_or_flawed (fun _ _ => contentEntry?_eq_some) "sourcesContent" fields with
    ⟨contents, hcontents⟩ | hflaw
  swap
  · exact hflaw.bind _
  rw [entriesOf_of_lists (fun _ _ => contentEntry?_eq_some) hcontents, ok_bind]
  rcases givesRoot_or_flawed (fields.valueOf "sourceRoot") with
    ⟨root, hroot⟩ | hflaw
  swap
  · exact hflaw.bind _
  rw [sourceRootOf_of_givesRoot hroot, ok_bind]
  rcases ofText?_or_flawed (fields.valueOf "file") with ⟨file, hfile⟩ | hflaw
  swap
  · exact hflaw.bind _
  have hpresent : (Json.Fields.get? "sources".toList fields).isSome = true := by
    rwa [Option.isNone_iff_eq_none, ← ne_eq, Option.ne_none_iff_isSome] at hsome
  exact absurd ⟨⟨sources, names, contents, root, file, table⟩, hversion, hpresent, hsources, hnames,
    hcontents, hroot, hfile, htable⟩ hnone

theorem linesOf_eq_ok {counts : Mappings.Counts} {table : Text} {lines : List (List Segment)} :
    linesOf counts table = .ok lines ↔ Mappings.decode counts table = .ok lines := by
  rw [linesOf]
  cases Mappings.decode counts table with
  | ok lines => simp
  | error fault =>
    dsimp only
    split <;> simp

/-- No JSON text starts with a closing parenthesis. -/
theorem parse_closing (rest : Text) :
    Json.parse (')' :: rest) = .error (.malformed .expectingValue 0) := by
  have hskip : Json.Cursor.skipSpace ⟨')' :: rest, 0⟩ = ⟨')' :: rest, 0⟩ := rfl
  have hconstant : Json.constant? (')' :: rest) = none := rfl
  have hnumber : Json.number ⟨')' :: rest, 0⟩ = .error (.malformed .expectingValue 0) := rfl
  rw [Json.parse, hskip, if_neg (by simp), Json.value]
  simp [hconstant, hnumber]

/-- The text of a value has no line before it that guards it. -/
theorem unguarded_of_parse {t : Text} {value : Json} (h : Json.parse t = .ok value) :
    unguarded t = t := by
  rw [unguarded]
  refine if_neg fun hguard => ?_
  obtain ⟨rest, hrest⟩ := Option.isSome_iff_exists.1 hguard
  rw [Text.afterPrefix?_eq_some] at hrest
  rw [hrest, show guard ++ rest = ')' :: ("]\x7d'".toList ++ rest) from rfl, parse_closing] at h
  cases h

/-- The bytes of a text whose fields say something make a source map if the table can be read. -/
theorem ofBytes_of_carried {bytes : Bytes} {t : Text} {lines : List (List Segment)}
    (htext : Utf8.decode bytes = .ok t) (hparse : Json.parse t = .ok (.obj fields))
    (hp : p.Carried fields) (hlines : Mappings.decode p.counts p.table = .ok lines) :
    ofBytes bytes = .ok (p.toMap lines) := by
  rw [ofBytes, htext]
  dsimp only
  rw [ofText, unguarded_of_parse hparse, hparse]
  show ofFields fields = _
  rw [ofFields_of_carried hp, linesOf, hlines]
  rfl

/-! ### What is not mended -/

/-- Bytes whose payload comes to a failure that does not leave the map out. -/
inductive PayloadHazard (bytes : Bytes) : Prop
  /-- A numeral has too many digits. -/
  | numeral {t : Text} {fault : NumeralFault} (htext : Utf8.decode bytes = .ok t)
      (h : Json.parse (unguarded t) = .error (.numeral fault))
  /-- A bracket is too deep inside others. -/
  | tooDeep {t : Text} {bracket : Json.Bracket} (htext : Utf8.decode bytes = .ok t)
      (h : Json.parse (unguarded t) = .error (.tooDeep bracket))
  /-- An index that is out of range has too many digits to be told. -/
  | longIndex {t : Text} {fields : Json.Fields} {p : Payload} {fault : Mappings.Fault} {index : Int}
      (htext : Utf8.decode bytes = .ok t) (hparse : Json.parse (unguarded t) = .ok (.obj fields))
      (hp : p.Carried fields) (htable : Mappings.decode p.counts p.table = .error fault)
      (hindex : fault.index? = some index) (h : numeralBound ≤ index.natAbs)

theorem caught_linesOf_iff {counts : Mappings.Counts} {table : Text} :
    Caught (linesOf counts table) ↔
      ∀ fault, Mappings.decode counts table = .error fault → ∀ index ∈ fault.index?,
        index.natAbs < numeralBound := by
  rw [linesOf]
  cases hdecode : Mappings.decode counts table with
  | ok lines => simp
  | error fault =>
    cases hindex : fault.index? with
    | none => simp [hindex, Failure.leavesMapOut]
    | some index =>
      by_cases hlong : index.natAbs < numeralBound <;>
        simp [writeInt, hindex, hlong, Failure.leavesMapOut]

theorem caught_ofFields_iff {fields : Json.Fields} :
    Caught (ofFields fields) ↔
      ∀ p : Payload, p.Carried fields → Caught (linesOf p.counts p.table) := by
  constructor
  · intro h p hp
    rwa [ofFields_of_carried hp, caught_map] at h
  · intro h
    rcases carried_or_flawed fields with ⟨p, hp⟩ | hflaw
    · rw [ofFields_of_carried hp, caught_map]
      exact h p hp
    · exact hflaw.caught

/-- Bytes make a source map or leave it out unless they are listed. -/
theorem caught_ofBytes_iff {bytes : Bytes} : Caught (ofBytes bytes) ↔ ¬ PayloadHazard bytes := by
  rw [ofBytes]
  constructor
  · rintro h (⟨htext, hparse⟩ | ⟨htext, hparse⟩ | ⟨htext, hparse, hp, htable, hindex, hlong⟩)
    · simp [htext, ofText, hparse, Failure.leavesMapOut] at h
    · simp [htext, ofText, hparse, Failure.leavesMapOut] at h
    · simp only [htext, ofText, hparse, ofJson] at h
      have hshort := caught_linesOf_iff.1 (caught_ofFields_iff.1 h _ hp) _ htable _ hindex
      omega
  · intro h
    cases htext : Utf8.decode bytes with
    | error fault => exact caught_error.2 rfl
    | ok t =>
      dsimp only
      rw [ofText]
      cases hparse : Json.parse (unguarded t) with
      | error fault =>
        cases fault with
        | malformed problem position => exact caught_error.2 rfl
        | numeral fault => exact absurd (.numeral htext hparse) h
        | tooDeep bracket => exact absurd (.tooDeep htext hparse) h
      | ok value =>
        cases value with
        | obj fields =>
          refine caught_ofFields_iff.2 fun p hp => caught_linesOf_iff.2 ?_
          intro fault htable index hindex
          by_contra hlong
          exact h (.longIndex htext hparse hp htable hindex (Nat.le_of_not_lt hlong))
        | _ => exact caught_error.2 rfl

end SourceMap

end Retrace

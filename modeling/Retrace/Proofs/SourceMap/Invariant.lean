import Mathlib
import Retrace.Proofs.SourceMap.Lookup

/-!
# Source maps that are well formed

A value makes a source map exactly if it is an object whose fields say something and whose table can
be read under the numbers of its sources and names. The map has what the fields say, and the lists
in it go together: there is one content for every source, every segment leads to a source and a name
that are there, and every line is sorted. Looking up a place or a content relies on nothing else.

* `SourceMap.WellFormed`: how the lists of a map go together;
* `SourceMap.Represents`: the maps that have what a payload says;
* `ofJson_eq_ok_iff`: the values that make a map, and the map.

Main statement: `ofJson_represents`.
-/

namespace Retrace.SourceMap

variable {m : SourceMap} {p : Payload} {lines : List (List Segment)}

/-- How many sources and names a map has. -/
def counts (m : SourceMap) : Mappings.Counts := ⟨some m.sources.length, some m.names.length⟩

/-- Whether the lists of a map go together. -/
structure WellFormed (m : SourceMap) : Prop where
  length_contents : m.contents.length = m.sources.length
  valid : ∀ row ∈ m.lines, ∀ s ∈ row, s.Valid m.counts
  sorted : ∀ row ∈ m.lines, row.Pairwise fun a b => a.generatedColumn ≤ b.generatedColumn

/-- Whether a map has what a payload says. A content is carried if it is one of a source. -/
structure Represents (m : SourceMap) (p : Payload) : Prop where
  version : m.version = 3
  sources : m.sources = p.sources
  names : m.names = p.names
  sourceRoot : m.sourceRoot = p.sourceRoot
  file : m.file = p.file
  mappings : m.mappings = p.table
  lines : Mappings.decode p.counts p.table = .ok m.lines
  contentFor : ∀ index : Int, m.contentFor index =
    if 0 ≤ index ∧ index < p.contents.length ∧ index < p.sources.length then
      p.contents[index.toNat]?.join
    else none

/-- A map with the lines of its table is well formed. -/
theorem wellFormed_toMap (h : Mappings.decode p.counts p.table = .ok lines) :
    (p.toMap lines).WellFormed where
  length_contents := length_fitted _ _
  valid row hrow := ((Mappings.valid_of_decode h).2 row hrow).1
  sorted row hrow := ((Mappings.valid_of_decode h).2 row hrow).2

theorem represents_toMap (h : Mappings.decode p.counts p.table = .ok lines) :
    (p.toMap lines).Represents p :=
  ⟨rfl, rfl, rfl, rfl, rfl, rfl, h, contentFor_toMap_eq⟩

/-- A value makes a map if it is an object, its fields say something, and its table can be read. -/
theorem ofJson_eq_ok_iff {value : Json} :
    ofJson value = .ok m ↔ ∃ (fields : Json.Fields) (p : Payload) (lines : List (List Segment)),
      value = .obj fields ∧ p.Carried fields ∧ Mappings.decode p.counts p.table = .ok lines ∧
        m = p.toMap lines := by
  constructor
  · intro h
    cases value with
    | obj fields =>
      change ofFields fields = .ok m at h
      obtain ⟨p, hp⟩ := (carried_or_flawed fields).resolve_right fun hflaw => hflaw.ne_ok m h
      rw [ofFields_of_carried hp, map_eq_ok] at h
      obtain ⟨lines, hlines, rfl⟩ := h
      exact ⟨fields, p, lines, rfl, hp, linesOf_eq_ok.1 hlines, rfl⟩
    | _ => cases h
  · rintro ⟨fields, p, lines, rfl, hp, hlines, rfl⟩
    show ofFields fields = _
    rw [ofFields_of_carried hp, linesOf_eq_ok.2 hlines]
    rfl

/-- **The maps that values make are well formed.** A value makes a map exactly if it is an object
whose fields say something, each of its own kind, and whose table can be read under the numbers of
sources and names; and the map has what the fields say and is well formed. -/
theorem ofJson_represents (value : Json) :
    ((∃ m, ofJson value = .ok m) ↔ ∃ (fields : Json.Fields) (p : Payload)
      (lines : List (List Segment)), value = .obj fields ∧ p.Carried fields ∧
        Mappings.decode p.counts p.table = .ok lines) ∧
    ∀ (fields : Json.Fields) (p : Payload) (m : SourceMap), value = .obj fields →
      p.Carried fields → ofJson value = .ok m → m.Represents p ∧ m.WellFormed := by
  constructor
  · constructor
    · rintro ⟨m, hm⟩
      obtain ⟨fields, p, lines, hvalue, hp, hlines, -⟩ := ofJson_eq_ok_iff.1 hm
      exact ⟨fields, p, lines, hvalue, hp, hlines⟩
    · rintro ⟨fields, p, lines, hvalue, hp, hlines⟩
      exact ⟨_, ofJson_eq_ok_iff.2 ⟨fields, p, lines, hvalue, hp, hlines, rfl⟩⟩
  · rintro fields p m rfl hp hm
    change ofFields fields = .ok m at hm
    rw [ofFields_of_carried hp, map_eq_ok] at hm
    obtain ⟨lines, hlines, rfl⟩ := hm
    have hdecode := linesOf_eq_ok.1 hlines
    exact ⟨represents_toMap hdecode, wellFormed_toMap hdecode⟩

/-- The fields of a payload with a content too many, a root that does not count as present, and a
line that is not in order. -/
def lopsidedFields : Json.Fields :=
  [("version".toList, .int 3), ("sources".toList, .arr [.str "a.ts".toList]),
    ("sourcesContent".toList, .arr [.null, .str "b".toList]), ("sourceRoot".toList, .int 0),
    ("mappings".toList, .str "IAAA,FACE".toList)]

/-- What the fields say. -/
def lopsidedPayload : Payload :=
  ⟨["a.ts".toList], [], [none, some "b".toList], [], none, "IAAA,FACE".toList⟩

theorem ofJson_represents_lopsided :
    lopsidedPayload.Carried lopsidedFields ∧ ∃ m, ofJson (.obj lopsidedFields) = .ok m ∧
      m.Represents lopsidedPayload ∧ m.WellFormed ∧
        m.lines = [[⟨2, 0, 1, 2, none⟩, ⟨4, 0, 0, 0, none⟩]] ∧ m.contentFor 1 = none := by
  have hcarried : lopsidedPayload.Carried lopsidedFields :=
    ⟨rfl, rfl, .arr [_], .null, .arr [none, some _], .absent rfl, rfl, rfl⟩
  have hdecode : Mappings.decode lopsidedPayload.counts lopsidedPayload.table =
      .ok [[⟨2, 0, 1, 2, none⟩, ⟨4, 0, 0, 0, none⟩]] := by cbv
  obtain ⟨hmakes, hmade⟩ := ofJson_represents (.obj lopsidedFields)
  obtain ⟨m, hm⟩ := hmakes.2 ⟨_, _, _, rfl, hcarried, hdecode⟩
  obtain ⟨hrepresents, hformed⟩ := hmade _ _ _ rfl hcarried hm
  have hlines := Except.ok.inj (hrepresents.lines.symm.trans hdecode)
  exact ⟨hcarried, m, hm, hrepresents, hformed, hlines, hrepresents.contentFor 1⟩

end Retrace.SourceMap

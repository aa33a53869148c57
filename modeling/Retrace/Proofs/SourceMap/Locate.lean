import Mathlib
import Retrace.Proofs.Path
import Retrace.Proofs.Script
import Retrace.Proofs.SourceMap.Invariant
import Retrace.Proofs.SourceMap.Lookup
import Retrace.Proofs.SourceMap.Reference
import Retrace.Resolver.Basic

/-!
# Locating source maps

What can become of a reference to a source map. On a disk where every file that is there can be
read, a map is located or counts as absent unless the reference is listed: it is no URL, a NUL is in
the path that it leads to, or the payload that it holds or leads to is listed for itself.

* `SourceMap.RouteHazard`: references that lead nowhere and are no flaw of the map;
* `SourceMap.ReferenceHazard`: references whose map is neither located nor left out;
* `SourceMap.Referenced`: the map that a bundle refers to, which is the one that is located;
* `SourceMap.FromPayload`: the maps that are located are read from payloads.

Main statements: `caught_follow_iff`, `mem_asked_locate`, `runAlone_locate_ok_iff` and
`fromPayload_of_locate`.
-/

namespace Retrace

namespace SourceMap

variable {disk : Disk} {bundle : Path} {root : Option Path} {reference text : Text}

/-- References that lead to no path, for a reason that is no flaw of the map. -/
inductive RouteHazard (root : Option Path) (reference : Text) : Prop
  | url {fault : UrlFault} (h : Url.split reference = .error fault)
  /-- A reference to the web, where files are served. -/
  | web {url : Url} {base : Path} (hurl : Url.split reference = .ok url) (hweb : url.isWeb = true)
      (hroot : root = some base) (h : base.hasNul = true ∨ (relativeOf url.path).hasNul = true)
  /-- An absolute path, where files are served. -/
  | rooted {url : Url} {base : Path} (hurl : Url.split reference = .ok url)
      (hscheme : url.scheme = []) (hslash : (Percent.text url.path).head? = some '/')
      (hroot : root = some base)
      (h : base.hasNul = true ∨ (relativeOf (Percent.text url.path)).hasNul = true)

/-- References whose map is neither located nor left out. -/
inductive ReferenceHazard (disk : Disk) (bundle : Path) (root : Option Path) (reference : Text) :
    Prop
  /-- The payload that the reference holds. -/
  | inline {bytes : Bytes} (hinline : isInline reference = true)
      (hbytes : dataUrlBytes reference = .ok bytes) (h : PayloadHazard bytes)
  | route (hexternal : isInline reference = false) (h : RouteHazard root reference)
  /-- The path has a NUL. -/
  | file {path : Path} (hexternal : isInline reference = false)
      (hpath : referencePath reference bundle root = .ok path) (h : path.absolute.hasNul = true)
  /-- The payload in the file that the reference leads to. -/
  | external {path : Path} {bytes : Bytes} (hexternal : isInline reference = false)
      (hpath : referencePath reference bundle root = .ok path)
      (hread : disk.read path.absolute = .content bytes) (h : PayloadHazard bytes)

theorem caught_splitUrl_iff {url : Text} :
    Caught (splitUrl url) ↔ ∀ fault, Url.split url ≠ .error fault := by
  rw [splitUrl]
  cases Url.split url <;> simp [Failure.leavesMapOut]

theorem splitUrl_eq_ok {text : Text} {url : Url} :
    splitUrl text = .ok url ↔ Url.split text = .ok url := mapError_eq_ok

theorem splitUrl_eq_error {text : Text} {failure : Failure} :
    splitUrl text = .error failure ↔
      ∃ fault, Url.split text = .error fault ∧ failure = .url fault := by
  rw [splitUrl]
  cases Url.split text <;> simp [eq_comm]

theorem leavesMapOut_ofLink (fault : LinkFault) : (Failure.ofLink fault).leavesMapOut = false := by
  cases fault <;> rfl

theorem caught_fileUnderBy_iff {resolve : Path → Except LinkFault Path} {base : Path}
    {urlPath : Text} :
    Caught (fileUnderBy resolve base urlPath) ↔
      ∀ fault, joinUnderBy resolve base urlPath ≠ .error (.unresolved fault) := by
  rw [fileUnderBy]
  cases joinUnderBy resolve base urlPath with
  | ok path => simp
  | error fault =>
    cases fault with
    | unresolved fault => simp [Failure.ofPath, leavesMapOut_ofLink]
    | outside urlPath => simp [Failure.ofPath, Failure.leavesMapOut]

theorem caught_fileUnder_iff {base : Path} {urlPath : Text} :
    Caught (fileUnderBy Path.resolve base urlPath) ↔
      ¬ (base.hasNul = true ∨ (relativeOf urlPath).hasNul = true) := by
  rw [caught_fileUnderBy_iff, ← joinUnder_eq_nullByte]
  refine ⟨fun h => h .nullByte, fun h fault hfault => ?_⟩
  rw [eq_nullByte_of_joinUnder hfault] at hfault
  exact h hfault

theorem routeHazard_iff {url : Url} (hurl : Url.split reference = .ok url) :
    RouteHazard root reference ↔ ∃ base, root = some base ∧
      (url.isWeb = true ∧ (base.hasNul = true ∨ (relativeOf url.path).hasNul = true) ∨
        url.scheme = [] ∧ (Percent.text url.path).head? = some '/' ∧
          (base.hasNul = true ∨ (relativeOf (Percent.text url.path)).hasNul = true)) := by
  constructor
  · rintro (⟨h⟩ | ⟨h, hweb, hroot, hnul⟩ | ⟨h, hscheme, hslash, hroot, hnul⟩)
    · rw [hurl] at h
      cases h
    · rw [hurl] at h
      cases h
      exact ⟨_, hroot, .inl ⟨hweb, hnul⟩⟩
    · rw [hurl] at h
      cases h
      exact ⟨_, hroot, .inr ⟨hscheme, hslash, hnul⟩⟩
  · rintro ⟨base, hroot, ⟨hweb, hnul⟩ | ⟨hscheme, hslash, hnul⟩⟩
    · exact .web hurl hweb hroot hnul
    · exact .rooted hurl hscheme hslash hroot hnul

theorem scheme_ne_nil_of_isWeb {url : Url} (h : url.isWeb = true) : url.scheme ≠ [] := by
  intro hscheme
  rw [Url.isWeb, hscheme] at h
  cases h

/-- A reference leads to a path or has a flaw unless it is listed. -/
theorem caught_referencePath_iff :
    Caught (referencePath reference bundle root) ↔ ¬ RouteHazard root reference := by
  by_cases hempty : reference = []
  · subst hempty
    have hnil : Url.split [] = .ok ⟨[], [], []⟩ := rfl
    rw [routeHazard_iff hnil]
    refine iff_of_true (caught_error.2 rfl) ?_
    rintro ⟨base, -, ⟨hweb, -⟩ | ⟨-, hslash, -⟩⟩
    · cases hweb
    · cases hslash
  -- the routes in the order in which they are tried; two of them end below the root
  rw [referencePath, referencePathBy, if_neg (by simpa using hempty)]
  cases hsplit : Url.split reference with
  | error fault =>
    refine iff_of_false (fun h => ?_) (not_not_intro (.url hsplit))
    exact caught_splitUrl_iff.1 (caught_bind.1 h).1 fault hsplit
  | ok url =>
    rw [splitUrl_eq_ok.2 hsplit, ok_bind, routeHazard_iff hsplit]
    by_cases hweb : url.isWeb = true
    · have hscheme := scheme_ne_nil_of_isWeb hweb
      rw [if_pos hweb]
      cases root with
      | none => simp [Failure.leavesMapOut]
      | some base => simp [caught_fileUnder_iff, hweb, hscheme]
    rw [if_neg hweb]
    by_cases hfile : url.scheme = fileScheme
    · have hscheme : url.scheme ≠ [] := by simp [hfile, fileScheme]
      rw [if_pos hfile]
      simp [hweb, hscheme]
    rw [if_neg hfile]
    by_cases hscheme : url.scheme = []
    swap
    · rw [if_pos (by simpa using hscheme)]
      simp [hweb, hscheme, Failure.leavesMapOut]
    rw [if_neg (by simpa using hscheme)]
    cases root with
    | none => simp
    | some base =>
      by_cases hslash : (Percent.text url.path).head? = some '/'
      · simp [caught_fileUnder_iff, hweb, hscheme, hslash]
      · simp [hweb, hslash]

theorem caught_dataUrlBytes (url : Text) : Caught (dataUrlBytes url) := by
  rw [dataUrlBytes]
  split
  · exact caught_error.2 rfl
  · split
    · rw [base64Bytes]
      split
      · exact caught_ok _
      · exact caught_error.2 rfl
    · exact caught_ok _

theorem caught_ofDataUrl_iff :
    Caught (ofDataUrl reference) ↔
      ∀ bytes, dataUrlBytes reference = .ok bytes → ¬ PayloadHazard bytes := by
  rw [ofDataUrl, caught_bind]
  simp only [caught_dataUrlBytes, caught_ofBytes_iff, true_and]

/-- To load a map is to find the path of its reference, to ask for the file there and to read the
map in it. -/
theorem result_load (disk : Disk) (reference : Text) (bundle : Path) (root : Option Path) :
    (load reference bundle root).result disk =
      referencePath reference bundle root >>= fun path =>
        (disk.fetched path.absolute).mapError .ofFile >>= fun found =>
          match found with
          | none => .error (.undecodable (.fileMissing path.toText))
          | some bytes => ofBytes bytes := by
  rw [load, Script.result_bind, Script.result_ofExcept]
  refine congrArg (_ >>= ·) (funext fun path => ?_)
  rw [Script.result_bind, Script.result_fetching]
  refine congrArg (_ >>= ·) (funext fun found => ?_)
  cases found <;> rfl

theorem caught_load_iff (hplain : disk.Plain) :
    Caught ((load reference bundle root).result disk) ↔
      ¬ RouteHazard root reference ∧
        ∀ path, referencePath reference bundle root = .ok path →
          path.absolute.hasNul = false ∧
            ∀ bytes, disk.read path.absolute = .content bytes → ¬ PayloadHazard bytes := by
  rw [result_load, caught_bind, caught_referencePath_iff]
  refine and_congr_right fun _ => forall₂_congr fun path hpath => ?_
  simp only [← Disk.fetched_eq_some]
  cases hfetched : disk.fetched path.absolute with
  | error fault =>
    obtain ⟨hnul, rfl⟩ := hplain.fetched_eq_error.1 hfetched
    simp [hnul, Failure.ofFile, Failure.leavesMapOut]
  | ok found =>
    have hnul : path.absolute.hasNul = false := by
      rw [Bool.eq_false_iff]
      intro hnul
      rw [hplain.fetched_eq_error.2 ⟨hnul, rfl⟩] at hfetched
      cases hfetched
    cases found with
    | none => simp [hnul, Failure.leavesMapOut]
    | some bytes => simp [hnul, caught_ofBytes_iff]

/-- A reference comes to a map or leaves it out unless it is listed. -/
theorem caught_follow_iff (hplain : disk.Plain) :
    Caught ((follow reference bundle root).result disk) ↔
      ¬ ReferenceHazard disk bundle root reference := by
  rw [follow]
  cases hinline : isInline reference with
  | true =>
    rw [if_pos rfl, Script.result_ofExcept, caught_ofDataUrl_iff]
    constructor
    · rintro h (⟨-, hbytes, hpayload⟩ | ⟨hexternal, -⟩ | ⟨hexternal, -, -⟩ | ⟨hexternal, -, -, -⟩)
      · exact h _ hbytes hpayload
      all_goals
        rw [hinline] at hexternal
        cases hexternal
    · intro h bytes hbytes hpayload
      exact h (.inline hinline hbytes hpayload)
  | false =>
    rw [if_neg Bool.false_ne_true, caught_load_iff hplain]
    constructor
    · rintro ⟨hroute, hfile⟩
        (⟨htrue, -, -⟩ | ⟨-, h⟩ | ⟨-, hpath, hnul⟩ | ⟨-, hpath, hread, hpayload⟩)
      · rw [hinline] at htrue
        cases htrue
      · exact hroute h
      · rw [(hfile _ hpath).1] at hnul
        cases hnul
      · exact (hfile _ hpath).2 _ hread hpayload
    · intro h
      refine ⟨fun hroute => h (.route hinline hroute), fun path hpath => ⟨?_, ?_⟩⟩
      · rw [Bool.eq_false_iff]
        intro hnul
        exact h (.file hinline hpath hnul)
      · intro bytes hread hpayload
        exact h (.external hinline hpath hread hpayload)

/-! ### What is asked for -/

/-- To load a map is to ask for the file that its reference leads to. -/
theorem mem_asked_load {path : Path} :
    path ∈ (load reference bundle root).asked disk ↔
      ∃ file, referencePath reference bundle root = .ok file ∧ path = file.absolute := by
  rw [load, Script.mem_asked_bind]
  simp only [Script.asked_ofExcept, Script.result_ofExcept, List.not_mem_nil, false_or]
  refine exists_congr fun file => and_congr_right fun _ => ?_
  rw [Script.mem_asked_bind, Script.asked_fetching, List.mem_singleton]
  refine or_iff_left ?_
  rintro ⟨found, -, h⟩
  cases found <;> cases h

/-- To locate a map is to ask for the file that the last reference leads to, unless the reference
holds its map. -/
theorem mem_asked_locate {path : Path} :
    path ∈ (locate text bundle root).asked disk ↔
      ∃ reference file, lastReference? text = some reference ∧ isInline reference = false ∧
        referencePath reference bundle root = .ok file ∧ path = file.absolute := by
  rw [locate]
  cases lastReference? text with
  | none => simp [Script.mem_asked_bind]
  | some reference =>
    dsimp only
    rw [Script.asked_andThen, List.mem_append]
    refine (or_iff_left ?_).trans ?_
    · -- whatever the reference comes to, no more is asked for
      cases (follow reference bundle root).result disk with
      | ok map => exact List.not_mem_nil
      | error failure =>
        dsimp only
        split <;> exact List.not_mem_nil
    · rw [follow]
      cases hinline : isInline reference with
      | true => simp [hinline]
      | false => simp [mem_asked_load, hinline]

/-! ### What is located -/

/-- Locating a map comes to what following the last reference comes to, and to no map at all where
that leaves it out. -/
theorem result_locate (disk : Disk) (text : Text) (bundle : Path) (root : Option Path) :
    (locate text bundle root).result disk =
      match lastReference? text with
      | none => .ok none
      | some reference =>
        match (follow reference bundle root).result disk with
        | .ok map => .ok (some map)
        | .error failure => if failure.leavesMapOut then .ok none else .error failure := by
  rw [locate]
  cases lastReference? text with
  | none => rfl
  | some reference =>
    dsimp only
    rw [Script.result_andThen]
    cases (follow reference bundle root).result disk with
    | ok map => rfl
    | error failure => cases h : failure.leavesMapOut <;> simp [h]

/-- Whether the last reference in the text of a bundle comes to a map. -/
inductive Referenced (disk : Disk) (bundle : Path) (root : Option Path) (text : Text)
    (map : SourceMap) : Prop
  /-- The reference holds the map. -/
  | inline {reference : Text} (hlast : lastReference? text = some reference)
      (hinline : isInline reference = true) (h : ofDataUrl reference = .ok map)
  /-- The reference leads to a file with the map. -/
  | external {reference : Text} {path : Path} {bytes : Bytes}
      (hlast : lastReference? text = some reference) (hexternal : isInline reference = false)
      (hpath : referencePath reference bundle root = .ok path)
      (hread : disk.read path.absolute = .content bytes) (h : ofBytes bytes = .ok map)

theorem result_load_eq_ok :
    (load reference bundle root).result disk = .ok map ↔
      ∃ path bytes, referencePath reference bundle root = .ok path ∧
        disk.read path.absolute = .content bytes ∧ ofBytes bytes = .ok map := by
  simp only [result_load, bind_eq_ok, mapError_eq_ok, exists_and_left, ← Disk.fetched_eq_some]
  refine exists_congr fun path => and_congr_right fun _ => ?_
  constructor
  · rintro ⟨found, hfound, h⟩
    cases found with
    | none => cases h
    | some bytes => exact ⟨bytes, hfound, h⟩
  · rintro ⟨bytes, hfound, h⟩
    exact ⟨some bytes, hfound, h⟩

theorem result_locate_eq_some :
    (locate text bundle root).result disk = .ok (some map) ↔
      Referenced disk bundle root text map := by
  have hfollow : ∀ reference, (follow reference bundle root).result disk = .ok map ↔
      isInline reference = true ∧ ofDataUrl reference = .ok map ∨
        isInline reference = false ∧ (load reference bundle root).result disk = .ok map := by
    intro reference
    rw [follow]
    cases isInline reference <;> simp
  rw [result_locate]
  constructor
  · intro h
    split at h
    · cases h
    · rename_i reference hlast
      split at h
      · rename_i found hfound
        cases h
        rcases (hfollow reference).1 hfound with ⟨hinline, h⟩ | ⟨hexternal, h⟩
        · exact .inline hlast hinline h
        · obtain ⟨path, bytes, hpath, hread, h⟩ := result_load_eq_ok.1 h
          exact .external hlast hexternal hpath hread h
      · split at h <;> cases h
  · rintro (⟨hlast, hinline, h⟩ | ⟨hlast, hexternal, hpath, hread, h⟩)
    · rw [hlast]
      dsimp only
      rw [(hfollow _).2 (.inl ⟨hinline, h⟩)]
    · rw [hlast]
      dsimp only
      rw [(hfollow _).2 (.inr ⟨hexternal, result_load_eq_ok.2 ⟨_, _, hpath, hread, h⟩⟩)]

/-- A map is located or there is none unless the last reference is listed. -/
theorem locate_eq_ok_iff (hplain : disk.Plain) :
    (∃ map?, (locate text bundle root).result disk = .ok map?) ↔
      ∀ reference, lastReference? text = some reference →
        ¬ ReferenceHazard disk bundle root reference := by
  rw [result_locate]
  cases lastReference? text with
  | none => simp
  | some reference =>
    simp only [Option.some.injEq, forall_eq', ← caught_follow_iff hplain]
    cases (follow reference bundle root).result disk with
    | ok map => simp
    | error failure => cases h : failure.leavesMapOut <;> simp [h]

/-- The same with whatever of the disk was read before. -/
theorem runAlone_locate_ok_iff (hplain : disk.Plain) {s : Shared} (h : s.cache.Faithful disk)
    (text : Text) (bundle : Path) (root : Option Path) :
    (∃ map?, ((locate text bundle root).runAlone disk s).2 = .ok map?) ↔
      ∀ reference, lastReference? text = some reference →
        ¬ ReferenceHazard disk bundle root reference := by
  rw [(Script.runAlone_faithful h _).1]
  exact locate_eq_ok_iff hplain

/-- A disk with the file `/maps/a b.map`, which is no JSON. -/
def brokenMap : Disk :=
  Disk.empty.put ⟨.slash, ["maps".toList, "a b.map".toList]⟩ (.file (Utf8.encode "[".toList))

theorem runAlone_locate_ok_iff_broken :
    brokenMap.Plain ∧ Cache.empty.Faithful brokenMap ∧
      ¬ ReferenceHazard brokenMap ⟨.slash, ["b.js".toList]⟩ none "maps/a%20b.map".toList := by
  have hplain : brokenMap.Plain := Disk.plain_of_nodes fun entry hentry => by
    rw [List.mem_singleton.1 hentry]
    exact ⟨by rintro _ ⟨⟩, by rintro _ ⟨⟩⟩
  have hempty : (⟨.empty, [], .empty⟩ : Shared).cache.Faithful brokenMap :=
    Cache.Faithful.empty brokenMap
  have hlast : lastReference? ([] ++ (markerText ++ "maps/a%20b.map".toList)) =
      some "maps/a%20b.map".toList :=
    lastReference?_append_marker (.inl rfl) (List.all_eq_true.1 (by decide))
  refine ⟨hplain, hempty, (runAlone_locate_ok_iff hplain hempty
    ([] ++ (markerText ++ "maps/a%20b.map".toList)) _ none).1 ⟨none, ?_⟩ _ hlast⟩
  rw [(Script.runAlone_faithful hempty _).1, result_locate, hlast]
  cbv

/-- A reference whose host has a bracket that is not closed, on a disk without files. -/
theorem runAlone_locate_open_bracket :
    Disk.empty.Plain ∧
      ((locate "//# sourceMappingURL=http://[".toList ⟨.slash, ["b.js".toList]⟩ none).runAlone
        .empty ⟨.empty, [], .empty⟩).2 = .error (.url .misplacedBracket) := by
  have hempty : (⟨.empty, [], .empty⟩ : Shared).cache.Faithful .empty := Cache.Faithful.empty _
  have hlast : lastReference? "//# sourceMappingURL=http://[".toList = some "http://[".toList :=
    lastReference?_append_marker (.inl rfl) (List.all_eq_true.1 (by decide))
  refine ⟨Disk.plain_of_nodes (by rintro _ ⟨⟩), ?_⟩
  rw [(Script.runAlone_faithful hempty _).1, result_locate, hlast]
  cbv

/-- Whether a map was read from a payload. -/
def FromPayload (map : SourceMap) : Prop :=
  ∃ (p : Payload) (lines : List (List Segment)),
    Mappings.decode p.counts p.table = .ok lines ∧ map = p.toMap lines

/-- A map that is made of a value was read from a payload. -/
theorem fromPayload_of_ofJson {value : Json} {map : SourceMap} (h : ofJson value = .ok map) :
    FromPayload map := by
  obtain ⟨-, p, lines, -, -, hlines, hmap⟩ := ofJson_eq_ok_iff.1 h
  exact ⟨p, lines, hlines, hmap⟩

/-- A map that was read from a payload is well formed. -/
theorem FromPayload.wellFormed {map : SourceMap} (h : FromPayload map) : map.WellFormed := by
  obtain ⟨p, lines, hdecode, rfl⟩ := h
  exact wellFormed_toMap hdecode

theorem fromPayload_of_ofBytes {bytes : Bytes} {map : SourceMap} (h : ofBytes bytes = .ok map) :
    FromPayload map := by
  rw [ofBytes] at h
  split at h
  · rw [ofText] at h
    split at h
    · exact fromPayload_of_ofJson h
    all_goals cases h
  · cases h

/-- What is located was read from a payload. -/
theorem fromPayload_of_locate {map : SourceMap}
    (h : (locate text bundle root).result disk = .ok (some map)) : FromPayload map := by
  cases result_locate_eq_some.1 h with
  | inline _ _ h =>
    obtain ⟨bytes, -, hbytes⟩ := bind_eq_ok.1 h
    exact fromPayload_of_ofBytes hbytes
  | external _ _ _ _ h => exact fromPayload_of_ofBytes h

theorem mem_of_segmentFor {map : SourceMap} {line column : Int} {segment : Segment}
    (h : map.segmentFor line column = some segment) : ∃ row ∈ map.lines, segment ∈ row := by
  rw [segmentFor] at h
  split at h
  · cases h
  rcases Option.or_eq_some_iff.1 h with hline | ⟨-, habove⟩
  · have hmem := mem_of_lastUpTo hline
    cases hrow : map.lines[line.toNat]? with
    | none => simp [List.getD_eq_getElem?_getD, hrow] at hmem
    | some row =>
      rw [List.getD_eq_getElem?_getD, hrow] at hmem
      exact ⟨row, List.mem_of_getElem? hrow, hmem⟩
  · obtain ⟨row, hrow, hhead⟩ := List.exists_of_findSome?_eq_some habove
    exact ⟨row, List.mem_of_mem_take (List.mem_reverse.1 hrow), List.mem_of_mem_head? hhead⟩

/-- Every segment of a map that was read from a payload leads to one of its sources. -/
theorem FromPayload.find?_eq_ok {map : SourceMap} (h : FromPayload map) (line column : Int) :
    ∃ place?, map.find? line column = .ok place? := by
  obtain ⟨p, lines, hdecode, rfl⟩ := h
  cases hsegment : (p.toMap lines).segmentFor line column with
  | none => exact ⟨none, by rw [find?, hsegment]⟩
  | some segment =>
    obtain ⟨row, hrow, hmem⟩ := mem_of_segmentFor hsegment
    have hvalid := ((Mappings.valid_of_decode hdecode).2 row hrow).1 segment hmem
    have hnonneg := hvalid.sourceIndex
    have hlt : segment.sourceIndex < p.sources.length := hvalid.source_lt _ rfl
    have hindex : segment.sourceIndex.toNat < p.sources.length := by omega
    exact ⟨_, find?_of_segmentFor hsegment hnonneg (List.getElem?_eq_getElem hindex)⟩

end SourceMap

end Retrace

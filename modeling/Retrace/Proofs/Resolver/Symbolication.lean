import Mathlib
import Retrace.Proofs.Resolver.History
import Retrace.Proofs.Resolver.Resolution
import Retrace.Proofs.SourceMap.Lookup
import Retrace.Proofs.SourceMap.Reference

/-!
# Symbolication

A bundle that ends with its source map as a data URL: a raw frame in it gets the place in a source
that the table of the map says, with a snippet of the source around that place.

* `Payload.Writes`: payloads whose table is written from rows of segments;
* `SourceMap.exists_place_of_writes`: the place that such a payload leads to;
* `SourceMap.locate_inline`: the map that is located in the text of such a bundle.

Main statement: `Resolver.resolveFrame_act_inline`.
-/

namespace Retrace

variable {disk : Disk} {settings : Settings} {raw : RawFrame}

/-- Whether the table of a payload is written from rows of segments and the contents of the sources
are carried, one for each. -/
structure Payload.Writes (p : Payload) (rows : List (List (List (Option Int))))
    (contents : List Text) : Prop where
  rows_ne_nil : rows ≠ []
  absolute : ∀ row ∈ rows, ∀ fields ∈ row, Mappings.Absolute p.counts fields
  encode_eq : Mappings.encode rows = .ok p.table
  contents_eq : p.contents = contents.map some
  length_eq : contents.length = p.sources.length

/-- The lines of a table that is written from rows. -/
def linesOfRows (rows : List (List (List (Option Int)))) : List (List Segment) :=
  rows.map fun row => Mappings.sortByColumn (row.filterMap Mappings.segmentOf?)

namespace SourceMap

variable {p : Payload} {rows : List (List (List (Option Int)))} {contents : List Text}
  {fields : Json.Fields} {payload before : Text}

theorem decode_of_writes (h : p.Writes rows contents) :
    Mappings.decode p.counts p.table = .ok (linesOfRows rows) := by
  obtain ⟨table, hwrite, hread⟩ := Mappings.decode_table h.rows_ne_nil h.absolute
  rw [h.encode_eq, Except.ok.injEq] at hwrite
  rw [hwrite]
  exact hread

theorem valid_of_writes (h : p.Writes rows contents) {row : List (List (Option Int))}
    (hrow : row ∈ rows) {s : Segment} (hs : s ∈ row.filterMap Mappings.segmentOf?) :
    s.Valid p.counts := by
  obtain ⟨fields, hfields, hsegment⟩ := List.mem_filterMap.1 hs
  cases h.absolute row hrow fields hfields with
  | column _ => cases hsegment
  | segment hsegment' hvalid =>
    rw [hsegment, Option.some.injEq] at hsegment'
    rwa [hsegment']

/-- Where a line of the table has a segment at or before a column, the segment that counts leads to
its source, and the text of the source is carried. -/
theorem exists_place_of_writes (h : p.Writes rows contents) {line column : Int} (hline : 0 ≤ line)
    (hcolumn : 0 ≤ column) {row : List (List (Option Int))} (hrow : rows[line.toNat]? = some row)
    (hsegment : ∃ s ∈ row.filterMap Mappings.segmentOf?, s.generatedColumn ≤ column) :
    ∃ (s : Segment) (source content : Text),
      s ∈ row.filterMap Mappings.segmentOf? ∧
      ChosenUpTo column (row.filterMap Mappings.segmentOf?) s ∧
      p.sources[s.sourceIndex.toNat]? = some source ∧
      contents[s.sourceIndex.toNat]? = some content ∧
      (p.toMap (linesOfRows rows)).find? line column = .ok
        (some ⟨rooted p.sourceRoot source, s.sourceLine, s.sourceColumn, s.sourceIndex,
          (p.toMap (linesOfRows rows)).nameAt s.nameIndex⟩) ∧
      (p.toMap (linesOfRows rows)).contentFor s.sourceIndex = some content := by
  obtain ⟨s, hs, hlast, hchosen⟩ :=
    exists_lastUpTo (Mappings.stablySorted_sortByColumn _) hsegment
  have hvalid := valid_of_writes h (List.mem_of_getElem? hrow) hs
  have hindex := hvalid.sourceIndex
  have hlt : s.sourceIndex.toNat < p.sources.length := by
    have := hvalid.source_lt _ rfl
    omega
  have hsource := List.getElem?_eq_getElem hlt
  have hcontent := List.getElem?_eq_getElem (h.length_eq ▸ hlt : _ < contents.length)
  refine ⟨s, _, _, hs, hchosen, hsource, hcontent, ?_, ?_⟩
  · refine find?_toMap hline hcolumn ?_ hlast hindex hsource
    rw [linesOfRows, List.getElem?_map, hrow]
    rfl
  · refine contentFor_toMap hindex hlt ?_
    rw [h.contents_eq, List.getElem?_map, hcontent]
    rfl

/-- The map of a data URL at the end of a text. -/
theorem locate_inline (disk : Disk) (h : p.Writes rows contents)
    (hparse : Json.parse payload = .ok (.obj fields))
    (hfields : p.Carried fields) (hbefore : EndsLine before) (bundle : Path) (root : Option Path) :
    (locate (before ++ (markerText ++ base64Url (Utf8.encode payload))) bundle root).result disk =
      .ok (some (p.toMap (linesOfRows rows))) := by
  have hbytes := ofBytes_of_carried (Utf8.decode_encode payload) hparse hfields (decode_of_writes h)
  rw [result_locate, lastReference?_append_marker hbefore fun c hc =>
    isReferenceChar_of_mem_base64Url hc]
  dsimp only
  rw [follow, isInline, isInline_base64Url, if_pos rfl, Script.result_ofExcept, ofDataUrl,
    dataUrlBytes_base64Url, ok_bind, hbytes]

end SourceMap

theorem fromZero_some {position : Int} (h : 1 ≤ position) :
    fromZero (some position) = position - 1 := by
  rw [fromZero, if_neg (by omega)]

/-- A position that is not given counts as the first. -/
theorem fromZero_of_getD {given : Option Int} {position : Int} (h : given.getD 1 = position)
    (hposition : 1 ≤ position) : fromZero given = position - 1 := by
  cases given with
  | none =>
    subst h
    rfl
  | some position' =>
    subst h
    exact fromZero_some hposition

namespace Resolver

/-- **A frame in a bundle is shown in its source.** A file ends with a payload as a data URL, and
the table of the payload is written from rows of segments. Then a raw frame in the file whose line
has a segment at or before its column gets the name of the source under its root, the original
position of the segment that counts, and the lines of the source around that position, whatever the
resolver did before. -/
theorem resolveFrame_act_inline {w : Workplace} (hw : w.Reached disk) (resolver : Resolver)
    {rows : List (List (List (Option Int)))} {contents : List Text} {p : Payload}
    (hp : p.Writes rows contents)
    {payload : Text} {fields : Json.Fields} (hparse : Json.parse payload = .ok (.obj fields))
    (hfields : p.Carried fields)
    {before : Text} (hbefore : EndsLine before) {file : Path} {bytes : Bytes}
    (hread : disk.read file.absolute = .content bytes)
    (htext : Utf8.decodeLossy bytes =
      before ++ (markerText ++ base64Url (Utf8.encode payload)))
    {target : Target} (htarget : Target.ofRaw resolver.settings raw = .ok target)
    (hfile : target.file? = some file)
    {line column : Int} (hline : raw.line = some line) (hline1 : 1 ≤ line)
    (hcolumn : raw.column.getD 1 = column) (hcolumn1 : 1 ≤ column)
    {row : List (List (Option Int))} (hrow : rows[(line - 1).toNat]? = some row)
    (hsegment : ∃ s ∈ row.filterMap Mappings.segmentOf?, s.generatedColumn ≤ column - 1) :
    ∃ (s : Segment) (source content : Text),
      s ∈ row.filterMap Mappings.segmentOf? ∧
      ChosenUpTo (column - 1) (row.filterMap Mappings.segmentOf?) s ∧
      p.sources[s.sourceIndex.toNat]? = some source ∧
      contents[s.sourceIndex.toNat]? = some content ∧
      let snippet := Snippet.extract content (s.sourceLine + 1) resolver.settings.contextLines
      (resolver.act w fun s => (resolveFrame resolver.settings raw).runAlone disk s).2 = .ok
        { name := raw.name
          file := SourceMap.rooted p.sourceRoot source
          line := some (s.sourceLine + 1)
          column := some (s.sourceColumn + 1)
          code := if snippet.shows (s.sourceLine + 1) then snippet.code else []
          start := some snippet.start
          stop := some snippet.stop
          anonymous := raw.anonymous } := by
  -- both positions count from one in frames and from zero in the table
  obtain ⟨s, source, content, hs, hchosen, hsource, hcontent, hplace, hcarried⟩ :=
    SourceMap.exists_place_of_writes hp (Int.sub_nonneg_of_le hline1)
      (Int.sub_nonneg_of_le hcolumn1) hrow hsegment
  rw [← fromZero_of_getD hcolumn hcolumn1, ← fromZero_some hline1, ← hline] at hplace
  refine ⟨s, source, content, hs, hchosen, hsource, hcontent, ?_⟩
  have hopened : Opened resolver.settings disk raw target file
      (before ++ (markerText ++ base64Url (Utf8.encode payload))) := by
    refine ⟨htarget, hfile, ?_⟩
    rw [fetchingText, Script.result_bind, Script.result_fetching,
      Disk.fetched_eq_some.2 hread, ← htext]
    rfl
  have hmap := SourceMap.locate_inline disk hp hparse hfields hbefore file target.root?
  have hframe := hopened.result_eq_of_mapped hmap
    (result_resolveMapped resolver.settings disk file hplace hcarried)
  -- what the resolver did before is in its cache, which does not show
  have hcache := Workplace.faithful_cacheAt hw.faithful resolver.cache
  exact (Script.runAlone_faithful (s := w.desk resolver.cache) hcache _).1.trans hframe

/-- One line with two segments of one column, out of order. -/
def bundleRows : List (List (List (Option Int))) :=
  [[[some 6, some 0, some 9, some 9], [some 0, some 0, some 1, some 2],
    [some 0, some 0, some 0, some 4, some 0], [some 3]]]

/-- A payload with these rows. -/
def bundlePayload : Payload :=
  ⟨["a.ts".toList], ["f".toList], [some "one\ntwo".toList], "src/".toList, none,
    "MASS,NARP,AADEA,G".toList⟩

/-- The text of the payload. -/
def bundlePayloadText : Text :=
  ("\x7b\"version\": 3, \"sources\": [\"a.ts\"], \"names\": [\"f\"], \"sourceRoot\": \"src/\", " ++
    "\"sourcesContent\": [\"one\\ntwo\"], \"mappings\": \"MASS,NARP,AADEA,G\"\x7d").toList

/-- A disk with a bundle that ends with the payload. -/
def bundleDisk : Disk :=
  Disk.empty.put ⟨.slash, ["b.js".toList]⟩ (.file (Utf8.encode
    ("run();\n".toList ++ (markerText ++ base64Url (Utf8.encode bundlePayloadText)))))

theorem resolveFrame_act_inline_bundle :
    let hired := hire .default none .empty
    let raw : RawFrame := ⟨"g".toList, "/b.js".toList, some 1, some 4, false⟩
    (hired.1.act hired.2 fun s => (resolveFrame .default raw).runAlone bundleDisk s).2 =
      .ok ⟨"g".toList, "src/a.ts".toList, some 1, some 5, "one\ntwo".toList, some 0, some 2,
        false⟩ := by
  have hwrites : bundlePayload.Writes bundleRows ["one\ntwo".toList] :=
    ⟨by decide, by decide, by cbv, rfl, rfl⟩
  obtain ⟨fields, hparse, hfields⟩ : ∃ fields, Json.parse bundlePayloadText = .ok (.obj fields) ∧
      bundlePayload.Carried fields := by
    refine ⟨_, by cbv, ?_⟩
    exact ⟨rfl, rfl, .arr [_], .arr [_], .arr [some _], .text _, rfl, rfl⟩
  have hread : bundleDisk.read (Path.absolute ⟨.slash, ["b.js".toList]⟩) = .content _ :=
    Disk.read_put_file _ (by decide) _
  have htarget : Target.ofRaw .default ⟨"g".toList, "/b.js".toList, some 1, some 4, false⟩ =
      .ok (.stored ⟨.slash, ["b.js".toList]⟩ "/b.js".toList) := by cbv
  obtain ⟨s, source, content, hs, hchosen, hsource, hcontent, hframe⟩ :=
    resolveFrame_act_inline (.hire .empty .default none) (hire .default none .empty).1 hwrites
      hparse hfields (.inr rfl) hread (Utf8.decodeLossy_encode _) htarget rfl rfl (by decide) rfl
      (by decide) rfl (by decide)
  have hs : s ∈ [⟨6, 0, 9, 9, none⟩, ⟨0, 0, 1, 2, none⟩, ⟨0, 0, 0, 4, some 0⟩] := hs
  simp only [List.mem_cons, List.not_mem_nil, or_false] at hs
  rcases hs with rfl | rfl | rfl
  · exact absurd hchosen.le (by decide)
  · exact absurd hchosen.last (by decide)
  · cases hsource
    cases hcontent
    exact hframe

end Resolver

end Retrace

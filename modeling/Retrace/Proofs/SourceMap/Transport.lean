import Retrace.Proofs.SourceMap.Locate
import Retrace.Proofs.Text.Percent
import Retrace.Proofs.Text.Pieces

/-!
# How a payload travels

The text of a payload may travel as it is, as bytes, in a data URL whose data is base64 or
percent-encoded, or in a file that a reference leads to. In front of it may stand a line that guards
it. What comes of it is the same every time, be it a source map or a failure.

* `dataUrl`: a data URL with a media type and parameters, `SaysBase64`: what a parameter has to say;
* `IsRelative`: references to a path beside their bundle;
* `Transport`: what comes of a text that travels, one case for each way;
* `Guards`: a text with a guarding line in front.

Main statement: `transport_eq`.
-/

namespace Retrace

/-! ### Data URLs -/

/-- The data URL with a media type, parameters and data. -/
def dataUrl (media : Text) (parameters : List Text) (data : Text) : Text :=
  dataScheme ++ (Text.joined [';'] (media :: parameters) ++ ',' :: data)

/-- Whether a text may be the media type or a parameter of a data URL. -/
structure IsHeadPart (part : Text) : Prop where
  comma : ',' ∉ part
  semicolon : ';' ∉ part

/-- Whether a parameter of a data URL says that its data is base64. -/
def SaysBase64 (parameter : Text) : Prop :=
  Text.lowerCase (Text.trim parameter) = "base64".toList

instance (parameter : Text) : Decidable (SaysBase64 parameter) :=
  inferInstanceAs (Decidable (Text.lowerCase (Text.trim parameter) = "base64".toList))

theorem toLower_of_not_ascii {c : Char} (h : 128 ≤ c.toNat) : c.toLower = c := by
  rw [Char.toLower, dif_neg]
  rintro ⟨-, hle⟩
  have hZ : c.toNat ≤ 'Z'.toNat := UInt32.le_iff_toNat_le.1 hle
  have : 'Z'.toNat = 90 := rfl
  omega

/-- A parameter says so in whatever case it is written. -/
theorem saysBase64_of_toLower {parameter : Text}
    (h : parameter.map Char.toLower = "base64".toList) : SaysBase64 parameter := by
  -- only the letters of the word are looked up in the table of cases
  have table : ∀ n : Fin 128, (Char.ofNat n).toLower ∈ "base64".toList →
      mapCase lowerRuns lowerExpansions (Char.ofNat n) = [(Char.ofNat n).toLower] ∧
        isBlank (Char.ofNat n) = false := by decide +kernel
  have hletter : ∀ c ∈ parameter, c.toLower ∈ "base64".toList := fun c hc =>
    h ▸ List.mem_map_of_mem hc
  have hascii : ∀ c ∈ parameter, c.toNat < 128 := by
    intro c hc
    by_contra hnot
    have hsame := toLower_of_not_ascii (Nat.le_of_not_lt hnot)
    have hmem := hletter c hc
    rw [hsame] at hmem
    have hall : "base64".toList.all (·.toNat < 128) = true := rfl
    exact hnot (by simpa using List.all_eq_true.1 hall c hmem)
  have hentry : ∀ c ∈ parameter, mapCase lowerRuns lowerExpansions c = [c.toLower] ∧
      isBlank c = false := by
    intro c hc
    have entry := table ⟨c.toNat, hascii c hc⟩
    simp only [show Char.ofNat c.toNat = c from Char.ofNat_toNat c] at entry
    exact entry (hletter c hc)
  rw [SaysBase64, Base64.trim_of_not_blank fun c hc => (hentry c hc).2, Text.lowerCase,
    List.flatMap_congr fun c hc => (hentry c hc).1, ← List.map_eq_flatMap, h]

/-- The data of a data URL is base64 exactly if a parameter says so. -/
theorem dataUrlBytes_dataUrl {media : Text} {parameters : List Text} (data : Text)
    (hhead : ∀ part ∈ media :: parameters, IsHeadPart part) :
    dataUrlBytes (dataUrl media parameters data) =
      if ∃ parameter ∈ parameters, SaysBase64 parameter then base64Bytes data
      else .ok (Percent.bytes data) := by
  have hprefix : Text.afterPrefix? dataScheme (dataUrl media parameters data) =
      some (Text.joined [';'] (media :: parameters) ++ ',' :: data) :=
    Text.afterPrefix?_eq_some.2 rfl
  have hcut : Text.cutAt? ',' (Text.joined [';'] (media :: parameters) ++ ',' :: data) =
      some (Text.joined [';'] (media :: parameters), data) :=
    Text.cutAt?_eq_some.2
      ⟨rfl, Text.not_mem_joined (by decide) fun part hpart => (hhead part hpart).comma⟩
  have hpieces : Text.pieces ';' (Text.joined [';'] (media :: parameters)) = media :: parameters :=
    Text.pieces_joined (by simp) fun part hpart => (hhead part hpart).semicolon
  have hmarked : saysBase64 (Text.joined [';'] (media :: parameters)) = true ↔
      ∃ parameter ∈ parameters, SaysBase64 parameter := by
    rw [saysBase64, hpieces, List.drop_one, List.tail_cons, List.any_eq_true]
    exact exists_congr fun parameter => and_congr_right fun _ => decide_eq_true_iff
  rw [dataUrlBytes, hprefix, Option.bind_some, hcut]
  exact if_congr hmarked rfl rfl

namespace SourceMap

/-! ### Files -/

/-- Whether a reference leads to a path beside its bundle: it has no scheme, and its path, decoded,
does not start with a slash. -/
structure IsRelative (reference path : Text) : Prop where
  ne_nil : reference ≠ []
  split_eq : ∃ authority encoded, Url.split reference = .ok ⟨[], authority, encoded⟩ ∧
    Percent.text encoded = path
  unrooted : path.head? ≠ some '/'

theorem referencePath_of_isRelative {reference path : Text} (h : IsRelative reference path)
    (bundle : Path) (root : Option Path) :
    referencePath reference bundle root = .ok (bundle.parent.join (.ofText path)) := by
  obtain ⟨hne, ⟨authority, encoded, hsplit, rfl⟩, hhead⟩ := h
  have hweb : ¬ Url.isWeb ⟨[], authority, encoded⟩ = true := nofun
  have hfile : ¬ ([] : Text) = fileScheme := nofun
  rw [referencePath, referencePathBy, if_neg (by simpa using hne), splitUrl_eq_ok.2 hsplit, ok_bind,
    if_neg hweb, if_neg hfile, if_neg (by simp)]
  cases root with
  | none => rfl
  | some root => exact if_neg hhead

/-- A map is loaded from what the disk has at the path of its reference, if nothing else was read
there before. -/
theorem runAlone_load {reference : Text} {bundle path : Path} {root : Option Path} {disk : Disk}
    {s : Shared} {bytes : Bytes} (hpath : referencePath reference bundle root = .ok path)
    (hread : disk.read path.absolute = .content bytes)
    (hcache : ∀ found, s.cache.find? path.absolute = some found → found = bytes) :
    ((load reference bundle root).runAlone disk s).2 = ofBytes bytes := by
  have hasked : s.cache.FaithfulAt disk ((load reference bundle root).asked disk) := by
    intro asked hasked found hfound
    obtain ⟨_, hpath', rfl⟩ := mem_asked_load.1 hasked
    rw [hpath, Except.ok.injEq] at hpath'
    subst hpath'
    rw [hread, hcache found hfound]
  rw [(Script.runAlone_asked hasked).1, result_load, hpath, ok_bind, Disk.fetched_eq_some.2 hread]
  rfl

/-! ### Guarding lines -/

/-- Whether a text is another with a line in front that guards it. A text that itself starts like
such a line cannot be told from its guard. -/
inductive Guards (t : Text) : Text → Prop
  | mk {note : Text} (hplain : Text.startsWith guard t = false) (hnote : '\n' ∉ note) :
      Guards t (guard ++ (note ++ '\n' :: t))

theorem ofText_of_guards {t carried : Text} (h : Guards t carried) : ofText carried = ofText t := by
  cases h with
  | @mk note hplain hnote =>
    have hstarts : Text.startsWith guard (guard ++ (note ++ '\n' :: t)) = true := by
      rw [Text.startsWith, Text.afterPrefix?_eq_some.2 rfl]
      rfl
    have hcut : Text.cutAt? '\n' (guard ++ (note ++ '\n' :: t)) = some (guard ++ note, t) := by
      rw [Text.cutAt?_eq_some, List.append_assoc]
      refine ⟨rfl, ?_⟩
      rw [List.mem_append, not_or]
      exact ⟨by decide, hnote⟩
    have hcarried : unguarded (guard ++ (note ++ '\n' :: t)) = t := by
      rw [unguarded, if_pos hstarts, hcut]
      rfl
    have ht : unguarded t = t := by
      rw [unguarded, hplain, if_neg Bool.false_ne_true]
    rw [ofText, ofText, hcarried, ht]

/-! ### The ways of a text -/

theorem ofBytes_encode (t : Text) : ofBytes (Utf8.encode t) = ofText t := by
  rw [ofBytes, Utf8.decode_encode]

/-- What comes of a text that travels. -/
inductive Transport (t : Text) : Except Failure SourceMap → Prop
  /-- As base64, in either alphabet and padded or not, in a data URL that says so. -/
  | base64 {media data : Text} {parameters : List Text}
      (hhead : ∀ part ∈ media :: parameters, IsHeadPart part)
      (hmarked : ∃ parameter ∈ parameters, SaysBase64 parameter)
      (hdata : Base64.Spells (Utf8.encode t) data) :
      Transport t (ofDataUrl (dataUrl media parameters data))
  /-- Percent-encoded, in a data URL that does not say that its data is base64. -/
  | percent {media data : Text} {parameters : List Text}
      (hhead : ∀ part ∈ media :: parameters, IsHeadPart part)
      (hunmarked : ∀ parameter ∈ parameters, ¬ SaysBase64 parameter)
      (hdata : Percent.Spells (Utf8.encode t) data) :
      Transport t (ofDataUrl (dataUrl media parameters data))
  | bytes : Transport t (ofBytes (Utf8.encode t))
  | text : Transport t (ofText t)
  /-- In a file beside a bundle that a reference leads to; nothing else was read there before. -/
  | file {reference path : Text} {bundle : Path} {root : Option Path} {disk : Disk} {s : Shared}
      (hreference : IsRelative reference path)
      (hread : disk.read (bundle.parent.join (.ofText path)).absolute = .content (Utf8.encode t))
      (hcache : ∀ found, s.cache.find? (bundle.parent.join (.ofText path)).absolute = some found →
        found = Utf8.encode t) :
      Transport t ((load reference bundle root).runAlone disk s).2

/-- Whatever way a text travels, what comes of it is what comes of the text itself. -/
theorem Transport.eq_ofText {t : Text} {outcome : Except Failure SourceMap}
    (h : Transport t outcome) : outcome = ofText t := by
  cases h with
  | base64 hhead hmarked hdata =>
    rw [ofDataUrl, dataUrlBytes_dataUrl _ hhead, if_pos hmarked, base64Bytes,
      Base64.decode_of_spells hdata]
    exact ofBytes_encode t
  | percent hhead hunmarked hdata =>
    rw [ofDataUrl, dataUrlBytes_dataUrl _ hhead, if_neg (by simpa using hunmarked),
      Percent.bytes_of_spells hdata]
    exact ofBytes_encode t
  | bytes => exact ofBytes_encode t
  | text => rfl
  | @file reference path bundle root disk s hreference hread hcache =>
    rw [runAlone_load (referencePath_of_isRelative hreference bundle root) hread hcache]
    exact ofBytes_encode t

/-- **All ways of a payload agree.** A text and the same text with a guarding line in front come to
one source map or one failure, whichever way each of them travels: as base64 in a data URL with any
media type and any parameters of which one says so, percent-encoded in one in which none says so, as
bytes, as a text, or in a file that a relative reference leads to. -/
theorem transport_eq {t carried : Text} {first second : Except Failure SourceMap}
    (hcarried : carried = t ∨ Guards t carried) (hfirst : Transport t first)
    (hsecond : Transport carried second) : second = first := by
  rw [hfirst.eq_ofText, hsecond.eq_ofText]
  rcases hcarried with rfl | hguards
  · rfl
  · exact ofText_of_guards hguards

/-- A source map with one source and one segment. -/
def queryText : Text :=
  "\x7b\"version\":3,\"sources\":[\"a??>\"],\"mappings\":\"AAAA\"\x7d".toList

theorem ofBytes_queryText :
    ofBytes (Utf8.encode queryText) = .ok ⟨3, ["a??>".toList], "AAAA".toList, [none], [], [], none,
      [[⟨0, 0, 0, 0, none⟩]]⟩ := by
  have hparse : Json.parse queryText = .ok (.obj [("version".toList, .int 3),
      ("sources".toList, .arr [.str "a??>".toList]), ("mappings".toList, .str "AAAA".toList)]) := by
    cbv
  have hcarried : Payload.Carried ⟨["a??>".toList], [], [], [], none, "AAAA".toList⟩
      [("version".toList, .int 3), ("sources".toList, .arr [.str "a??>".toList]),
        ("mappings".toList, .str "AAAA".toList)] :=
    ⟨rfl, rfl, .arr [_], .null, .null, .absent rfl, rfl, rfl⟩
  exact ofBytes_of_carried (Utf8.decode_encode _) hparse hcarried (by cbv)

/-- The payload in a file whose name has a blank. -/
def queryDisk : Disk :=
  Disk.empty.put ⟨.slash, ["maps".toList, "a b.map".toList]⟩ (.file (Utf8.encode queryText))

/-- A source map in a file, and in the web alphabet without its padding behind a guarding line. -/
theorem transport_eq_query :
    let loaded := ((load "maps/a%20b.map".toList ⟨.slash, ["b.js".toList]⟩ none).runAlone queryDisk
      ⟨.empty, [], .empty⟩).2
    ofDataUrl (dataUrl "text/plain".toList ["charset=utf-8".toList, "BaSe64".toList]
        "KV19J3h5egp7InZlcnNpb24iOjMsInNvdXJjZXMiOlsiYT8_PiJdLCJtYXBwaW5ncyI6IkFBQUEifQ".toList) =
          loaded ∧
      loaded = .ok ⟨3, ["a??>".toList], "AAAA".toList, [none], [], [], none,
        [[⟨0, 0, 0, 0, none⟩]]⟩ := by
  have hguards : Guards queryText (guard ++ ("xyz".toList ++ '\n' :: queryText)) :=
    .mk (by decide) (by decide)
  have hreference : IsRelative "maps/a%20b.map".toList "maps/a b.map".toList :=
    ⟨by simp, ⟨[], _, by cbv, by cbv⟩, by decide⟩
  have hread : queryDisk.read
      (Path.join (Path.parent ⟨.slash, ["b.js".toList]⟩) (.ofText "maps/a b.map".toList)).absolute =
        .content (Utf8.encode queryText) := Disk.read_put_file _ (by decide) _
  have hhead : ∀ part ∈ ["text/plain".toList, "charset=utf-8".toList, "BaSe64".toList],
      IsHeadPart part := by
    intro part hpart
    simp only [List.mem_cons, List.not_mem_nil, or_false] at hpart
    rcases hpart with rfl | rfl | rfl <;> exact ⟨by decide, by decide⟩
  have hmarked : SaysBase64 "BaSe64".toList := saysBase64_of_toLower (by cbv)
  have hdata : Base64.Spells (Utf8.encode (guard ++ ("xyz".toList ++ '\n' :: queryText)))
      "KV19J3h5egp7InZlcnNpb24iOjMsInNvdXJjZXMiOlsiYT8_PiJdLCJtYXBwaW5ncyI6IkFBQUEifQ".toList :=
    ⟨2, by cbv⟩
  have hfile : Transport queryText ((load "maps/a%20b.map".toList ⟨.slash, ["b.js".toList]⟩
      none).runAlone queryDisk ⟨.empty, [], .empty⟩).2 :=
    .file hreference hread (by rintro found ⟨⟩)
  refine ⟨transport_eq (.inr hguards) hfile (.base64 hhead ⟨_, by simp, hmarked⟩ hdata), ?_⟩
  exact (transport_eq (.inl rfl) .bytes hfile).trans ofBytes_queryText

end SourceMap

end Retrace

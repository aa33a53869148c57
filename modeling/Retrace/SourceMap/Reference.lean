import Retrace.SourceMap.Payload
import Retrace.Text.Case

/-!
# References to source maps

A bundle refers to its source map by a comment, of which the last counts. The reference is a data
URL that holds the map itself, or leads to a file: one that is served, for a reference to the web
and for an absolute path where files are served at all; one beside the bundle otherwise.

* `lastReference?`: the reference of a bundle (`find_reference`);
* `SourceMap.ofDataUrl`: the map in a data URL (`decode_inline`);
* `referencePathBy`, `referencePath`: the file that a reference leads to (`resolve_reference`), on
  any disk and without links;
* `sourceFile?`: the file that a source of a map leads to (`_original_path`).

Main statement: `references_of_afterMarker?`, how a text is searched after a comment that is found.
-/

namespace Retrace

/-- What follows the marker of a reference at the start of a text. -/
def afterMarker? : Text → Option Text
  | '/' :: '/' :: mark :: rest =>
    if mark = '#' ∨ mark = '@' then
      Text.afterPrefix? "sourceMappingURL=".toList (rest.dropWhile fun c => c = ' ' ∨ c = '\t')
    else none
  | _ => none

/-- Whether a character may stand in a reference. -/
def isReferenceChar (c : Char) : Bool := !isBlank c && c != '\'' && c != '"'

theorem length_afterMarker? {t after : Text} (h : afterMarker? t = some after) :
    after.length < t.length := by
  unfold afterMarker? at h
  split at h
  · rename_i mark rest
    split at h
    · have hsplit := Text.afterPrefix?_eq_some.1 h
      have hle := (List.dropWhile_sublist (fun c : Char => decide (c = ' ' ∨ c = '\t'))
        (l := rest)).length_le
      rw [hsplit, List.length_append] at hle
      simp only [List.length_cons]
      omega
    · cases h
  · cases h

/-- The references in a text, from left to right. -/
def references (t : Text) : List Text :=
  match t with
  | [] => []
  | c :: rest =>
    match _h : afterMarker? (c :: rest) with
    | some after =>
      after.takeWhile isReferenceChar :: references (after.dropWhile isReferenceChar)
    | none => references rest
termination_by t.length
decreasing_by
  · exact Nat.lt_of_le_of_lt (List.dropWhile_sublist isReferenceChar).length_le
      (length_afterMarker? (by assumption))
  · exact Nat.lt_succ_self _

/-- The last reference in a text. -/
def lastReference? (t : Text) : Option Text := (references t).getLast?

/-- After a marker that is found, the search goes on behind its reference. -/
theorem references_of_afterMarker? {t after : Text} (h : afterMarker? t = some after) :
    references t =
      after.takeWhile isReferenceChar :: references (after.dropWhile isReferenceChar) := by
  cases t with
  | nil => cases h
  | cons c rest =>
    rw [references]
    split
    · rename_i found hfound
      rw [h] at hfound
      cases hfound
      rfl
    · rename_i hnone
      rw [h] at hnone
      cases hnone

/-- The scheme of data URLs. -/
def dataScheme : Text := "data:".toList

/-- The bytes of a base64 text. -/
def base64Bytes (t : Text) : Except Failure Bytes :=
  match Base64.decode t with
  | .ok bytes => .ok bytes
  | .error fault => .error (.undecodable (.notBase64 fault))

/-- Whether the parameters in the head of a data URL, after its media type, say that its data is
base64. -/
def saysBase64 (head : Text) : Bool :=
  ((Text.pieces ';' head).drop 1).any fun parameter =>
    Text.lowerCase (Text.trim parameter) = "base64".toList

/-- The bytes that a data URL holds. -/
def dataUrlBytes (url : Text) : Except Failure Bytes :=
  match (Text.afterPrefix? dataScheme url).bind (Text.cutAt? ',') with
  | none => .error (.undecodable .dataUrlMalformed)
  | some (head, data) => if saysBase64 head then base64Bytes data else .ok (Percent.bytes data)

/-- The source map in a data URL. -/
def SourceMap.ofDataUrl (url : Text) : Except Failure SourceMap := do
  SourceMap.ofBytes (← dataUrlBytes url)

/-- The parts of a URL. -/
def splitUrl (url : Text) : Except Failure Url := (Url.split url).mapError .url

/-- The file behind a path of a URL below a root, by a way of resolving paths. -/
def fileUnderBy (resolve : Path → Except LinkFault Path) (root : Path) (urlPath : Text) :
    Except Failure Path :=
  (joinUnderBy resolve root urlPath).mapError .ofPath

/-- The file behind a path of a URL below a root. -/
def fileUnder (root : Path) (urlPath : Text) : Except Failure Path :=
  fileUnderBy Path.resolve root urlPath

/-- The served file behind a whole URL. -/
def servedFile (root : Path) (url : Text) : Except Failure Path := do
  fileUnder root (← splitUrl url).path

/-- The scheme of URLs of files. -/
def fileScheme : Text := "file".toList

/-- The file that a reference leads to, by a way of resolving paths. -/
def referencePathBy (resolve : Path → Except LinkFault Path) (reference : Text) (bundle : Path)
    (root : Option Path) : Except Failure Path := do
  if reference.isEmpty then .error (.undecodable .referenceEmpty)
  else
    let url ← splitUrl reference
    if url.isWeb then
      match root with
      | none => .error (.undecodable (.nowhereServed reference))
      | some root => fileUnderBy resolve root url.path
    else if url.scheme = fileScheme then .ok (Path.ofText (Percent.text url.path))
    else if !url.scheme.isEmpty then .error (.undecodable (.schemeUnsupported url.scheme))
    else
      let path := Percent.text url.path
      match root with
      | some root =>
        if path.head? = some '/' then fileUnderBy resolve root path
        else .ok (bundle.parent.join (.ofText path))
      | none => .ok (bundle.parent.join (.ofText path))

/-- The file that a reference leads to. -/
def referencePath (reference : Text) (bundle : Path) (root : Option Path) : Except Failure Path :=
  referencePathBy Path.resolve reference bundle root

/-- The file that a source of a bundle's map leads to, if it leads to one. -/
def sourceFile? (bundle : Path) (source : Text) : Except Failure (Option Path) := do
  let url ← splitUrl source
  if url.scheme = fileScheme then .ok (some (Path.ofText (Percent.text url.path)))
  else if url.scheme.isEmpty then
    .ok (some (bundle.parent.join (.ofText (Percent.text url.path))))
  else .ok none

end Retrace

import Retrace.Failure

/-!
# Payloads of source maps

A source map travels as a JSON object, which is checked field by field before its table is read. A
list that is `null` counts as empty. Contents are cut or filled up to one for every source.

* `SourceMap.ofJson`: the source map of a value (`SourceMap.from_payload`);
* `SourceMap.ofText`, `SourceMap.ofBytes`: the same of its text, after a line that guards against
  being run as a script, and of the bytes of the text (`decode_payload`).

Main statement: `length_fitted`, there are as many contents as sources.
-/

namespace Retrace

namespace SourceMap

/-- The entries of the list under a key. -/
def entriesOf {α : Type} (key : Text) (accept : Json → Option α) (fields : Json.Fields) :
    Except Failure (List α) :=
  match (Json.Fields.get? key fields).getD .null with
  | .null => .ok []
  | .arr items =>
    items.mapM fun item =>
      match accept item with
      | some entry => .ok entry
      | none => .error (.undecodable (.entryNotText key item))
  | _ => .error (.undecodable (.notList key))

/-- An entry that has to be a text. -/
def textEntry? : Json → Option Text
  | .str t => some t
  | _ => none

/-- An entry that has to be a text or `null`. -/
def contentEntry? : Json → Option (Option Text)
  | .str t => some (some t)
  | .null => some none
  | _ => none

/-- Contents cut or filled up to a number of sources. -/
def fitted (count : Nat) (contents : List (Option Text)) : List (Option Text) :=
  (contents ++ List.replicate count none).take count

theorem length_fitted (count : Nat) (contents : List (Option Text)) :
    (fitted count contents).length = count := by
  simp [fitted]

theorem getElem?_fitted {count i : Nat} (h : i < count) (contents : List (Option Text)) :
    (fitted count contents)[i]? = some (contents[i]?.join) := by
  rw [fitted, List.getElem?_take_of_lt h]
  by_cases hi : i < contents.length
  · rw [List.getElem?_append_left hi]
    simp [hi]
  · rw [List.getElem?_append_right (Nat.le_of_not_lt hi),
      List.getElem?_replicate_of_lt (by omega), List.getElem?_eq_none (Nat.le_of_not_lt hi)]
    rfl

/-- The version of a payload, which has to be three. -/
def versionOf : Json → Except Failure Int
  | .int version =>
    if version = 3 then .ok version else .error (.undecodable (.versionUnsupported version))
  | other => .error (.undecodable (.versionNotInteger other))

/-- The root of the sources of a payload; a value that does not count as present is none. -/
def sourceRootOf : Json → Except Failure Text
  | .str t => .ok t
  | other => if other.isTruthy then .error (.undecodable .sourceRootNotText) else .ok []

/-- The name of the generated file of a payload. -/
def fileOf : Json → Except Failure (Option Text)
  | .str t => .ok (some t)
  | .null => .ok none
  | _ => .error (.undecodable .fileNotText)

/-- The lines of a table. An index that cannot be written in the wording of a fault is a failure of
its own. -/
def linesOf (counts : Mappings.Counts) (table : Text) : Except Failure (List (List Segment)) :=
  match Mappings.decode counts table with
  | .ok lines => .ok lines
  | .error fault =>
    match fault.index?.map writeInt with
    | some (.error long) => .error (.numeral long)
    | _ => .error (.undecodable (.mappings fault))

/-- The source map of the fields of a payload. -/
def ofFields (fields : Json.Fields) : Except Failure SourceMap := do
  let field (key : String) : Json := (Json.Fields.get? key.toList fields).getD .null
  let version ← versionOf (field "version")
  if (Json.Fields.get? "sources".toList fields).isNone then
    .error (.undecodable .sourcesMissing)
  else
    match field "mappings" with
    | .str table => do
      let sources ← entriesOf "sources".toList textEntry? fields
      let names ← entriesOf "names".toList textEntry? fields
      let contents ← entriesOf "sourcesContent".toList contentEntry? fields
      let sourceRoot ← sourceRootOf (field "sourceRoot")
      let file ← fileOf (field "file")
      let lines ← linesOf ⟨some sources.length, some names.length⟩ table
      .ok ⟨version, sources, table, fitted sources.length contents, names, sourceRoot, file, lines⟩
    | _ => .error (.undecodable .mappingsNotText)

/-- The source map of a value. -/
def ofJson : Json → Except Failure SourceMap
  | .obj fields => ofFields fields
  | _ => .error (.undecodable .notObject)

/-- What some servers put before a payload so that it does not run as a script. -/
def guard : Text := ")]\x7d'".toList

/-- A text without the line that guards it. -/
def unguarded (t : Text) : Text :=
  if Text.startsWith guard t then ((t.cutAt? '\n').map (·.2)).getD [] else t

/-- The source map of a text. -/
def ofText (t : Text) : Except Failure SourceMap :=
  let payload := unguarded t
  match Json.parse payload with
  | .ok value => ofJson value
  | .error (.malformed problem position) =>
    .error (.undecodable (.notJson payload problem position))
  | .error (.numeral fault) => .error (.numeral fault)
  | .error (.tooDeep bracket) => .error (.tooDeep bracket)

/-- The source map of bytes. -/
def ofBytes (bytes : Bytes) : Except Failure SourceMap :=
  match Utf8.decode bytes with
  | .ok t => ofText t
  | .error fault => .error (.undecodable (.notUtf8 fault))

end SourceMap

end Retrace

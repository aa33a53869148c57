import Retrace.Json.Parser
import Retrace.SourceMap.Mappings
import Retrace.Text.Base64

/-!
# Flaws of source maps

Why a source map cannot be had from a reference, from bytes, from a text or from a value: the
`SourceMapDecodeError`s. All of them are mended in one way: the bundle counts as one without a
source map.
-/

namespace Retrace

/-- Why there is no source map. -/
inductive Flaw
  | notUtf8 (fault : Utf8.Fault)
  | notJson (text : Text) (problem : Json.Problem) (position : Nat)
  | notObject
  /-- The version is no whole number. -/
  | versionNotInteger (version : Json)
  | versionUnsupported (version : Int)
  | sourcesMissing
  | mappingsNotText
  | notList (key : Text)
  | entryNotText (key : Text) (entry : Json)
  | sourceRootNotText
  | fileNotText
  | mappings (fault : Mappings.Fault)
  | notBase64 (fault : Base64.Fault)
  | dataUrlMalformed
  | referenceEmpty
  /-- A reference to the web without a root that files are served from. -/
  | nowhereServed (reference : Text)
  | schemeUnsupported (scheme : Text)
  | fileMissing (path : Text)

/-- The wording of a flaw. -/
def Flaw.message : Flaw → String
  | .notUtf8 fault => "Sourcemap is not UTF-8: " ++ fault.message
  | .notJson text problem position =>
    "Sourcemap is not valid JSON: " ++ (Json.Fault.malformed problem position).message text
  | .notObject => "Sourcemap payload must be a JSON object"
  | .versionNotInteger version =>
    "Missing or invalid 'version': " ++ String.ofList version.literal
  | .versionUnsupported version =>
    "Unsupported sourcemap version " ++ String.ofList (intText version)
  | .sourcesMissing => "Missing 'sources'"
  | .mappingsNotText => "Missing or invalid 'mappings'"
  | .notList key => "'" ++ String.ofList key ++ "' must be a list"
  | .entryNotText key entry =>
    "'" ++ String.ofList key ++ "' contains a non-string entry: " ++ String.ofList entry.literal
  | .sourceRootNotText => "'sourceRoot' must be a string"
  | .fileNotText => "'file' must be a string"
  | .mappings fault => fault.message
  | .notBase64 fault => "Invalid base64 sourcemap payload: " ++ fault.message
  | .dataUrlMalformed => "Malformed data URL"
  | .referenceEmpty => "Empty sourcemap reference"
  | .nowhereServed reference => "No public root to serve " ++ String.ofList reference ++ " from"
  | .schemeUnsupported scheme => "Unsupported sourcemap URL scheme: " ++ String.ofList scheme
  | .fileMissing path => "Sourcemap file not found: " ++ String.ofList path

end Retrace

import Retrace.Disk.Basic
import Retrace.Frame.Basic
import Retrace.Path.Served
import Retrace.SourceMap.Basic
import Retrace.SourceMap.Flaw

/-!
# Failures

What ends an operation of the library, a `RekindleError` or an exception of the standard library. A
failure is made where its cause is found and is either dealt with by the caller that has something
else to offer or handed on as it is.

* `Failure`, `Failure.message`;
* `Failure.leavesMapOut`: the failures that make a source map count as absent.
-/

namespace Retrace

/-- What ends an operation. -/
inductive Failure
  | rejected (reason : Rejection)
  | undecodable (flaw : Flaw)
  | unreadable (access : FileAccess) (path : Path) (errno : Nat)
  | outside (urlPath : Text)
  | nullByte
  | linkLoop (file : Path)
  | url (fault : UrlFault)
  | numeral (fault : NumeralFault)
  | tooDeep (bracket : Json.Bracket)
  | lookup (fault : SourceMap.LookupFault)
  | stackMissing
  | timedOut (message : Text)

namespace Failure

/-- The wording of a failure. -/
def message : Failure → String
  | .rejected reason => reason.message
  | .undecodable flaw => flaw.message
  | .unreadable access path errno => (FileFault.refused access path errno).message
  | .outside urlPath => (PathFault.outside urlPath).message
  | .nullByte => LinkFault.nullByte.message
  | .linkLoop file => (LinkFault.loop file).message
  | .url fault => fault.message
  | .numeral fault => fault.message
  | .tooDeep bracket => bracket.message
  | .lookup fault => fault.message
  | .stackMissing => "Error payload has no 'stack' string"
  | .timedOut message => String.ofList message

/-- Whether a failure makes a source map count as absent. -/
def leavesMapOut : Failure → Bool
  | .undecodable _ => true
  | .outside _ => true
  | _ => false

/-- The failure of making a frame. -/
def ofFrame : FrameFault → Failure
  | .rejected reason => .rejected reason
  | .numeral fault => .numeral fault

/-- The failure of resolving a path. -/
def ofLink : LinkFault → Failure
  | .nullByte => .nullByte
  | .loop file => .linkLoop file

/-- The failure of finding a served path. -/
def ofPath : PathFault → Failure
  | .unresolved fault => ofLink fault
  | .outside urlPath => .outside urlPath

/-- The failure of reading a file. -/
def ofFile : FileFault → Failure
  | .refused access path errno => .unreadable access path errno
  | .nullByte => .nullByte

end Failure

end Retrace

import Retrace.Path.Basic
import Retrace.Text.Quoted
import Retrace.Url.Basic

/-!
# Served paths

The file behind the path of a URL, below the root that files are served from: `join_under`. The
path is decoded, its leading separators do not count, and a path that leads out of the root is
refused. Where the root and the path lead is for the disk to say, for they may be links: how paths
are resolved, by `Path.resolve`, is a parameter.

* `Path.resolveFrom`, `Path.resolve`: how paths are resolved on a disk without links;
* `relativeOf`: the path of a URL as a path that starts nowhere;
* `joinUnderBy`, `joinUnder`: the file behind it below a root, on any disk and without links.
-/

namespace Retrace

/-- Why a path is not resolved. -/
inductive LinkFault
  /-- The path has a NUL. -/
  | nullByte
  /-- The links on the way lead to each other without end. -/
  | loop (file : Path)
  deriving DecidableEq

/-- The wording of a fault. -/
def LinkFault.message : LinkFault → String
  | .nullByte => "embedded null byte"
  | .loop file => "Symlink loop from " ++ String.ofList (Text.quoted file.toText)

/-- Why a served path is refused. -/
inductive PathFault
  /-- The root or the path is not resolved. -/
  | unresolved (fault : LinkFault)
  /-- The path leads out of its root. -/
  | outside (urlPath : Text)
  deriving DecidableEq

/-- The wording of a fault. -/
def PathFault.message : PathFault → String
  | .unresolved fault => fault.message
  | .outside urlPath => "Path traversal detected: " ++ String.ofList urlPath

/-- The file that a path leads to from a working directory, on a disk without links: the normal
absolute path below a single slash. No file has a NUL in its path. -/
def Path.resolveFrom (working p : Path) : Except LinkFault Path :=
  if p.hasNul then .error .nullByte else .ok ⟨.slash, (absoluteFrom working p).parts⟩

/-- The file that a path leads to on the disk that the library works on, which has no links. -/
def Path.resolve (p : Path) : Except LinkFault Path := resolveFrom top p

/-- The path of a URL, decoded, taken as relative, with `..` worked out as far as it goes. -/
def relativeOf (urlPath : Text) : Path :=
  (Path.ofText ((Percent.text urlPath).dropWhile fun c => c = '/' ∨ c = '\\')).normal

/-- The file behind a path of a URL below a root, by a way of resolving paths. -/
def joinUnderBy (resolve : Path → Except LinkFault Path) (root : Path) (urlPath : Text) :
    Except PathFault Path := do
  let base ← (resolve root).mapError .unresolved
  let full ← (resolve (base.join (relativeOf urlPath))).mapError .unresolved
  if base.isUnder full then .ok full else .error (.outside urlPath)

/-- The file behind a path of a URL below a root. -/
def joinUnder (root : Path) (urlPath : Text) : Except PathFault Path :=
  joinUnderBy Path.resolve root urlPath

end Retrace

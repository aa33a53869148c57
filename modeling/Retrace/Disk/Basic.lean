import Retrace.Disk.Errno
import Retrace.Path.Basic
import Retrace.Text.Quoted
import Retrace.Text.Utf8

/-!
# Disks

A disk has nodes at absolute paths, files and directories, and each may refuse to tell what it is or
to give its content. A path above a node is a directory whether or not it has a node of its own. A
file is read as `FileCache._read` reads it: `os.stat` and `S_ISREG` first, and then `open`.

* `Disk.find?`, `Disk.put`, `Disk.remove`: the node at a path;
* `Disk.read`: what comes of reading a path;
* `FileFault`: why a file that is there cannot be read.

Main statement: `read_put_file`, a file that was put on the disk is read as it is.
-/

namespace Retrace

/-- A node of a disk: the content of a file, nothing for a directory, and the error numbers by
which it refuses to be looked at or to be read. -/
structure Node where
  content : Option Bytes
  lookErrno : Option Nat
  readErrno : Option Nat

/-- The node of a plain file. -/
def Node.file (bytes : Bytes) : Node := ⟨some bytes, none, none⟩

/-- What a file refuses. -/
inductive FileAccess
  | look
  | read
  deriving DecidableEq

/-- The word for an access in messages. -/
def FileAccess.label : FileAccess → String
  | .look => "stat"
  | .read => "read"

/-- What comes of reading a path. -/
inductive Reading
  | content (bytes : Bytes)
  /-- There is no such file. -/
  | absent
  /-- There is something other than a file. -/
  | notFile
  | refused (access : FileAccess) (errno : Nat)
  /-- The path has a NUL. -/
  | nullByte

/-- Why a file that is there cannot be read. -/
inductive FileFault
  | refused (access : FileAccess) (path : Path) (errno : Nat)
  | nullByte
  deriving DecidableEq

/-- The text of an error number at a path. -/
def errnoMessage (path : Path) (errno : Nat) : String :=
  s!"[Errno {errno}] {errnoText errno}: {String.ofList path.toText.quoted}"

/-- The wording of a fault. -/
def FileFault.message : FileFault → String
  | .refused access path errno =>
    s!"Failed to {access.label} {String.ofList path.toText}: {errnoMessage path errno}"
  | .nullByte => "embedded null byte"

/-- The nodes of a disk by their absolute paths. -/
structure Disk where
  nodes : List (Path × Node)

namespace Disk

/-- The disk without nodes. -/
def empty : Disk := ⟨[]⟩

/-- The node at a path. -/
def find? (disk : Disk) (path : Path) : Option Node :=
  (disk.nodes.find? fun entry => entry.1 = path).map (·.2)

/-- The disk without the node at a path. -/
def remove (disk : Disk) (path : Path) : Disk :=
  ⟨disk.nodes.filter fun entry => entry.1 ≠ path⟩

/-- The disk with a node at a path. -/
def put (disk : Disk) (path : Path) (node : Node) : Disk :=
  ⟨(path, node) :: (disk.remove path).nodes⟩

/-- The refusal with an error number; some numbers only say that there is no such file. -/
def refusal (access : FileAccess) (errno : Nat) : Reading :=
  if isAbsence errno then .absent else .refused access errno

/-- What comes of reading a node. -/
def readNode (node : Node) : Reading :=
  match node.lookErrno, node.content, node.readErrno with
  | some errno, _, _ => refusal .look errno
  | none, none, _ => .notFile
  | none, some _, some errno => refusal .read errno
  | none, some bytes, none => .content bytes

/-- What comes of reading an absolute path. -/
def read (disk : Disk) (path : Path) : Reading :=
  if path.hasNul then .nullByte
  else
    match disk.find? path with
    | some node => readNode node
    | none =>
      if disk.nodes.any fun entry => entry.2.content.isSome && entry.1.isUnder path then .absent
      else if disk.nodes.any fun entry => path.isUnder entry.1 then .notFile
      else .absent

theorem find?_put_self (disk : Disk) (path : Path) (node : Node) :
    (disk.put path node).find? path = some node := by
  simp [find?, put]

/-- A file that was put on the disk is read as it is. -/
theorem read_put_file (disk : Disk) {path : Path} (h : path.hasNul = false) (bytes : Bytes) :
    (disk.put path (.file bytes)).read path = .content bytes := by
  rw [read, find?_put_self, h]
  rfl

end Disk

end Retrace

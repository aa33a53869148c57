import Retrace.Disk.Basic
import Retrace.Script

/-!
# What a disk says

What comes of asking a disk for a file, by the node at its path. A file that is there may refuse to
be looked at or to be read. Some error numbers say instead that there is no such file, at least not
any more, and then it counts as one that is not there.

* `Disk.fetched`: what comes of asking for a file;
* `Disk.Refuses`, `Disk.Missing`: the files that refuse, and those that are not there;
* `Disk.Plain`: disks on which nothing but a NUL in a path is a fault.

Main statements: `read_eq_refused`, `Missing.read_eq` and `plain_of_nodes`.
-/

namespace Retrace

/-- What comes of asking a disk for the file at an absolute path. -/
def Disk.fetched (disk : Disk) (path : Path) : Fetched :=
  match disk.read path with
  | .content bytes => .ok (some bytes)
  | .absent => .ok none
  | .notFile => .ok none
  | .refused access errno => .error (.refused access path errno)
  | .nullByte => .error .nullByte

/-- Whether every file of a disk that is there can be looked at and read. -/
def Disk.Plain (disk : Disk) : Prop :=
  ∀ path access errno, disk.read path ≠ .refused access errno

/-- Whether an error number says something else than that there is no such file. -/
def Refusing (errno : Nat) : Prop := errno ≠ 2 ∧ errno ≠ 20

/-- Whether a disk refuses an access to the file at an absolute path. -/
inductive Disk.Refuses (disk : Disk) (path : Path) : FileAccess → Nat → Prop
  /-- The file refuses to be looked at. -/
  | look {node : Node} {errno : Nat} (hnul : path.hasNul = false)
      (hnode : disk.find? path = some node) (h : node.lookErrno = some errno)
      (herrno : Refusing errno) : Refuses disk path .look errno
  /-- There is a regular file, which refuses to be read. -/
  | read {node : Node} {bytes : Bytes} {errno : Nat} (hnul : path.hasNul = false)
      (hnode : disk.find? path = some node) (hlook : node.lookErrno = none)
      (hfile : node.content = some bytes) (h : node.readErrno = some errno)
      (herrno : Refusing errno) : Refuses disk path .read errno

/-- Whether a disk has no regular file at an absolute path, or none any more. -/
inductive Disk.Missing (disk : Disk) (path : Path) : Prop
  | absent (hnul : path.hasNul = false) (h : disk.find? path = none)
  /-- To look at the file says that there is none. -/
  | unseen {node : Node} {errno : Nat} (hnul : path.hasNul = false)
      (hnode : disk.find? path = some node) (h : node.lookErrno = some errno)
      (herrno : ¬ Refusing errno)
  | directory {node : Node} (hnul : path.hasNul = false) (hnode : disk.find? path = some node)
      (hlook : node.lookErrno = none) (h : node.content = none)
  /-- The file was there when it was looked at, but not when it was read. -/
  | vanished {node : Node} {bytes : Bytes} {errno : Nat} (hnul : path.hasNul = false)
      (hnode : disk.find? path = some node) (hlook : node.lookErrno = none)
      (hfile : node.content = some bytes) (h : node.readErrno = some errno)
      (herrno : ¬ Refusing errno)

namespace Disk

variable {disk : Disk} {path : Path}

theorem fetched_eq_some {bytes : Bytes} :
    disk.fetched path = .ok (some bytes) ↔ disk.read path = .content bytes := by
  rw [fetched]
  cases disk.read path <;> simp

theorem fetched_eq_none :
    disk.fetched path = .ok none ↔ disk.read path = .absent ∨ disk.read path = .notFile := by
  rw [fetched]
  cases disk.read path <;> simp

theorem readNode_ne_nullByte (node : Node) : readNode node ≠ .nullByte := by
  have hrefusal : ∀ access errno, refusal access errno ≠ .nullByte := by
    intro access errno
    rw [refusal]
    split <;> simp
  rw [readNode]
  split
  · exact hrefusal _ _
  · simp
  · exact hrefusal _ _
  · simp

theorem read_of_node {node : Node} (hnul : path.hasNul = false)
    (hnode : disk.find? path = some node) : disk.read path = readNode node := by
  rw [read, hnul, if_neg Bool.false_ne_true, hnode]

theorem read_of_no_node (hnul : path.hasNul = false) (hnode : disk.find? path = none) :
    disk.read path = .absent ∨ disk.read path = .notFile := by
  rw [read, hnul, if_neg Bool.false_ne_true, hnode]
  dsimp only
  split
  · exact .inl rfl
  · split
    · exact .inr rfl
    · exact .inl rfl

/-- A path is refused as it is if it has a NUL. -/
theorem read_eq_nullByte : disk.read path = .nullByte ↔ path.hasNul = true := by
  by_cases hnul : path.hasNul = true
  · simp [read, hnul]
  refine iff_of_false ?_ hnul
  rw [Bool.not_eq_true] at hnul
  cases hnode : disk.find? path with
  | none => rcases read_of_no_node hnul hnode with hread | hread <;> simp [hread]
  | some node =>
    rw [read_of_node hnul hnode]
    exact readNode_ne_nullByte node

theorem refusing_iff {errno : Nat} : Refusing errno ↔ ¬ isAbsence errno = true := by
  rw [isAbsence_iff, Refusing, not_or]

theorem refusal_eq_refused {access expected : FileAccess} {errno number : Nat} :
    refusal access errno = .refused expected number ↔
      access = expected ∧ errno = number ∧ Refusing errno := by
  rw [refusal, refusing_iff]
  split <;> simp_all

theorem refusal_eq_absent {access : FileAccess} {errno : Nat} :
    refusal access errno = .absent ↔ ¬ Refusing errno := by
  rw [refusal, refusing_iff]
  split <;> simp_all

/-- A read is refused exactly if the disk refuses it. -/
theorem read_eq_refused {access : FileAccess} {errno : Nat} :
    disk.read path = .refused access errno ↔ disk.Refuses path access errno := by
  constructor
  · intro h
    have hnul : path.hasNul = false := by
      rw [Bool.eq_false_iff]
      intro hnul
      rw [read_eq_nullByte.2 hnul] at h
      cases h
    cases hnode : disk.find? path with
    | none => rcases read_of_no_node hnul hnode with hread | hread <;> rw [hread] at h <;> cases h
    | some node =>
      rw [read_of_node hnul hnode, readNode] at h
      split at h
      · obtain ⟨rfl, rfl, herrno⟩ := refusal_eq_refused.1 h
        exact .look hnul hnode ‹_› herrno
      · cases h
      · obtain ⟨rfl, rfl, herrno⟩ := refusal_eq_refused.1 h
        exact .read hnul hnode ‹_› ‹_› ‹_› herrno
      · cases h
  · rintro (⟨hnul, hnode, h, herrno⟩ | ⟨hnul, hnode, hlook, hfile, h, herrno⟩)
    · rw [read_of_node hnul hnode, readNode, h]
      exact refusal_eq_refused.2 ⟨rfl, rfl, herrno⟩
    · rw [read_of_node hnul hnode, readNode, hlook, hfile, h]
      exact refusal_eq_refused.2 ⟨rfl, rfl, herrno⟩

theorem Missing.read_eq (h : disk.Missing path) :
    disk.read path = .absent ∨ disk.read path = .notFile := by
  cases h with
  | absent hnul h => exact read_of_no_node hnul h
  | unseen hnul hnode h herrno =>
    rw [read_of_node hnul hnode, readNode, h]
    exact .inl (refusal_eq_absent.2 herrno)
  | directory hnul hnode hlook h =>
    rw [read_of_node hnul hnode, readNode, hlook, h]
    exact .inr rfl
  | vanished hnul hnode hlook hfile h herrno =>
    rw [read_of_node hnul hnode, readNode, hlook, hfile, h]
    exact .inl (refusal_eq_absent.2 herrno)

/-- A disk is plain if its files refuse nothing, or only say that they are not there. -/
theorem plain_of_nodes (h : ∀ entry ∈ disk.nodes,
    (∀ errno ∈ entry.2.lookErrno, isAbsence errno = true) ∧
      ∀ errno ∈ entry.2.readErrno, isAbsence errno = true) : disk.Plain := by
  intro path access errno hread
  have hnodes : ∀ {node}, disk.find? path = some node →
      (∀ errno ∈ node.lookErrno, isAbsence errno = true) ∧
        ∀ errno ∈ node.readErrno, isAbsence errno = true := by
    intro node hnode
    obtain ⟨entry, hentry, rfl⟩ := Option.map_eq_some_iff.1 hnode
    exact h entry (List.mem_of_find?_eq_some hentry)
  cases read_eq_refused.1 hread with
  | look _ hnode hlook herrno => exact refusing_iff.1 herrno ((hnodes hnode).1 _ hlook)
  | read _ hnode _ _ hread herrno => exact refusing_iff.1 herrno ((hnodes hnode).2 _ hread)

/-- On a plain disk nothing but a NUL keeps a path from being asked for. -/
theorem Plain.fetched_eq_error (h : disk.Plain) {fault : FileFault} :
    disk.fetched path = .error fault ↔ path.hasNul = true ∧ fault = .nullByte := by
  have hnul : disk.read path = .nullByte ↔ path.hasNul = true := read_eq_nullByte
  rw [← hnul, fetched]
  cases hread : disk.read path with
  | refused access errno => exact absurd hread (h path access errno)
  | nullByte => simp [eq_comm]
  | content bytes => simp
  | absent => simp
  | notFile => simp

end Disk

end Retrace

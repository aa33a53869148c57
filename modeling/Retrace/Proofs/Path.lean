import Retrace.Path.Served
import Retrace.Proofs.Outcome

/-!
# Normal paths

A path below a root is normal as soon as it has no `..` in it, so a path that was made absolute is
its own absolute form, whatever directory it was made absolute from. A normal path has no names but
those of the path it was made from and of that directory; hence a NUL that is found in a path was
there before.

* `Path.IsRead`: the paths that can be read from a text;
* `Path.IsWorking`: the directories that can be worked in;
* `Path.below`: the place that a relative path leads to from a directory, in or out of it.

Main statements: `absoluteFrom_absoluteFrom`, and `joinUnderBy_eq_ok` and
`joinUnderBy_eq_unresolved`, which say when a path is served and when it is refused for a fault.
-/

namespace Retrace

namespace Path

/-- Names without `..` are all put on the stack. -/
theorem replay_of_not_mem {names : List Text} (h : ['.', '.'] ∉ names) (stack : List Text) :
    replay true stack names = names.reverse ++ stack := by
  induction names generalizing stack with
  | nil => rfl
  | cons name rest ih =>
    obtain ⟨hname, hrest⟩ := List.ne_and_not_mem_of_not_mem_cons h
    have hpush : pushName true stack name = name :: stack := by
      unfold pushName
      exact if_neg hname.symm
    rw [show replay true stack (name :: rest) =
        replay true (pushName true stack name) rest from rfl, hpush, ih hrest]
    simp

/-- Whether the names of a path are as they are read from a text: none is empty or `.`. -/
def IsRead (p : Path) : Prop := ∀ name ∈ p.parts, name ≠ [] ∧ name ≠ ['.']

theorem isRead_ofText (t : Text) : (ofText t).IsRead := by
  intro name hname
  simpa using (List.mem_filter.1 hname).2

/-- Whether a path can be the directory that is worked in. -/
structure IsWorking (working : Path) : Prop where
  rooted : working.root ≠ .none
  isRead : working.IsRead
  hasNul_eq : working.hasNul = false

theorem isWorking_top : IsWorking top := ⟨nofun, nofun, rfl⟩

section Working

variable {working : Path}

theorem root_join_ne_none (h : working.IsWorking) (p : Path) : (working.join p).root ≠ .none := by
  have hrooted := h.rooted
  cases hroot : p.root <;> simp [join, hroot, hrooted]

theorem not_mem_parts_absoluteFrom (h : working.IsWorking) (p : Path) :
    ['.', '.'] ∉ (absoluteFrom working p).parts := by
  have hrooted : decide ((working.join p).root ≠ .none) = true := by
    simpa using root_join_ne_none h p
  rw [absoluteFrom, normal, hrooted, List.mem_reverse]
  exact replay_absolute List.not_mem_nil _

/-- A path below a root without `..` is its own absolute form. -/
theorem absoluteFrom_of_not_mem {p : Path} (hroot : p.root ≠ .none) (h : ['.', '.'] ∉ p.parts)
    (working : Path) : absoluteFrom working p = p := by
  have hjoin : working.join p = p := by
    cases hp : p.root <;> simp_all [join]
  rw [absoluteFrom, hjoin, normal, show decide (p.root ≠ .none) = true by simpa using hroot,
    replay_of_not_mem h]
  simp

/-- A path that was made absolute is its own absolute form. -/
theorem absoluteFrom_absoluteFrom (h : working.IsWorking) (other p : Path) :
    absoluteFrom other (absoluteFrom working p) = absoluteFrom working p := by
  have hroot : (absoluteFrom working p).root ≠ .none := root_join_ne_none h p
  exact absoluteFrom_of_not_mem hroot (not_mem_parts_absoluteFrom h p) other

theorem absolute_absolute (p : Path) : p.absolute.absolute = p.absolute :=
  absoluteFrom_absoluteFrom isWorking_top top p

end Working

theorem mem_of_mem_pushName {rooted : Bool} {stack : List Text} {name other : Text}
    (h : other ∈ pushName rooted stack name) : other ∈ stack ∨ other = name := by
  unfold pushName at h
  split at h
  · split at h
    · split at h
      · exact absurd h List.not_mem_nil
      · exact .inr (List.mem_singleton.1 h)
    · split at h
      · exact (List.mem_cons.1 h).symm
      · exact .inl (List.mem_cons_of_mem _ h)
  · exact (List.mem_cons.1 h).symm

theorem mem_of_mem_replay {rooted : Bool} {stack names : List Text} {other : Text}
    (h : other ∈ replay rooted stack names) : other ∈ stack ∨ other ∈ names := by
  induction names generalizing stack with
  | nil => exact .inl h
  | cons name rest ih =>
    rcases ih h with hpush | hrest
    · rcases mem_of_mem_pushName hpush with hstack | rfl
      · exact .inl hstack
      · exact .inr List.mem_cons_self
    · exact .inr (List.mem_cons_of_mem _ hrest)

theorem mem_parts_join {p q : Path} {name : Text} (h : name ∈ (p.join q).parts) :
    name ∈ p.parts ∨ name ∈ q.parts := by
  unfold join at h
  split at h
  · exact List.mem_append.1 h
  · exact .inr h

/-- No name is made up on the way to an absolute path. -/
theorem mem_parts_of_mem_absoluteFrom {working p : Path} {name : Text}
    (h : name ∈ (absoluteFrom working p).parts) : name ∈ working.parts ∨ name ∈ p.parts := by
  rcases mem_of_mem_replay (List.mem_reverse.1 h) with hnil | hmem
  · exact absurd hnil List.not_mem_nil
  · exact mem_parts_join hmem

theorem hasNul_absoluteFrom {working p : Path} (hworking : working.hasNul = false)
    (hp : p.hasNul = false) : (absoluteFrom working p).hasNul = false := by
  rw [Bool.eq_false_iff]
  intro h
  obtain ⟨name, hmem, hnul⟩ := List.any_eq_true.1 h
  rcases mem_parts_of_mem_absoluteFrom hmem with hmem | hmem
  · exact Bool.eq_false_iff.1 hworking (List.any_eq_true.2 ⟨name, hmem, hnul⟩)
  · exact Bool.eq_false_iff.1 hp (List.any_eq_true.2 ⟨name, hmem, hnul⟩)

theorem resolveFrom_eq_ok {working p q : Path} :
    resolveFrom working p = .ok q ↔
      p.hasNul = false ∧ q = ⟨.slash, (absoluteFrom working p).parts⟩ := by
  cases hnul : p.hasNul with
  | true => simp [resolveFrom, hnul]
  | false => simp [resolveFrom, hnul, eq_comm]

theorem resolveFrom_eq_error {working p : Path} {fault : LinkFault} :
    resolveFrom working p = .error fault ↔ p.hasNul = true ∧ fault = .nullByte := by
  cases hnul : p.hasNul with
  | true => simp [resolveFrom, hnul, eq_comm]
  | false => simp [resolveFrom, hnul]

theorem resolve_eq_ok {p q : Path} (h : p.resolve = .ok q) :
    p.hasNul = false ∧ q = ⟨.slash, p.absolute.parts⟩ ∧ q.hasNul = false := by
  obtain ⟨hnul, rfl⟩ := resolveFrom_eq_ok.1 h
  exact ⟨hnul, rfl, hasNul_absoluteFrom isWorking_top.hasNul_eq hnul⟩

theorem resolve_eq_error {p : Path} {fault : LinkFault} :
    p.resolve = .error fault ↔ p.hasNul = true ∧ fault = .nullByte := resolveFrom_eq_error

theorem hasNul_join (p q : Path) :
    (p.join q).hasNul = true ↔ q.hasNul = true ∨ q.root = .none ∧ p.hasNul = true := by
  cases hroot : q.root <;> simp [join, hroot, hasNul, or_comm]

end Path

/-- The normal place of a directory below the root of the disk. -/
def Path.place (directory : Path) : Path := ⟨.slash, directory.absolute.parts⟩

/-- The place that a relative path leads to from a directory, in or out of it. -/
def Path.below (directory relative : Path) : Path := (directory.place.join relative).place

theorem Path.resolve_eq_place {p : Path} (h : p.hasNul = false) : p.resolve = .ok p.place :=
  resolveFrom_eq_ok.2 ⟨h, rfl⟩

/-! ### What is served -/

section Served

variable {resolve : Path → Except LinkFault Path} {root base full file : Path} {urlPath : Text}

theorem joinUnderBy_of_unresolved_root {fault : LinkFault} (hbase : resolve root = .error fault) :
    joinUnderBy resolve root urlPath = .error (.unresolved fault) := by
  simp only [joinUnderBy, hbase, mapError_error, error_bind]

theorem joinUnderBy_of_unresolved {fault : LinkFault} (hbase : resolve root = .ok base)
    (hfull : resolve (base.join (relativeOf urlPath)) = .error fault) :
    joinUnderBy resolve root urlPath = .error (.unresolved fault) := by
  simp only [joinUnderBy, hbase, hfull, mapError_ok, mapError_error, ok_bind, error_bind]

/-- What is served is what the path leads to below the root, if that lies under the root. -/
theorem joinUnderBy_of_resolve (hbase : resolve root = .ok base)
    (hfull : resolve (base.join (relativeOf urlPath)) = .ok full) :
    joinUnderBy resolve root urlPath =
      if base.isUnder full then .ok full else .error (.outside urlPath) := by
  simp only [joinUnderBy, hbase, hfull, mapError_ok, ok_bind]

/-- A path is served if the root and the path below it are resolved, the one under the other. -/
theorem joinUnderBy_eq_ok :
    joinUnderBy resolve root urlPath = .ok file ↔
      ∃ base, resolve root = .ok base ∧ resolve (base.join (relativeOf urlPath)) = .ok file ∧
        base.isUnder file = true := by
  rw [joinUnderBy, bind_eq_ok]
  refine exists_congr fun base => and_congr mapError_eq_ok ?_
  rw [bind_eq_ok]
  constructor
  · rintro ⟨full, hfull, hserved⟩
    split at hserved
    · rename_i hunder
      cases hserved
      exact ⟨mapError_eq_ok.1 hfull, hunder⟩
    · cases hserved
  · rintro ⟨hfull, hunder⟩
    exact ⟨file, mapError_eq_ok.2 hfull, if_pos hunder⟩

/-- A path is refused for a fault if the root or the path below it has it. -/
theorem joinUnderBy_eq_unresolved {fault : LinkFault} :
    joinUnderBy resolve root urlPath = .error (.unresolved fault) ↔
      resolve root = .error fault ∨
        ∃ base, resolve root = .ok base ∧
          resolve (base.join (relativeOf urlPath)) = .error fault := by
  cases hbase : resolve root with
  | error other => simp [joinUnderBy_of_unresolved_root hbase]
  | ok base =>
    cases hfull : resolve (base.join (relativeOf urlPath)) with
    | error other => simp [joinUnderBy_of_unresolved hbase hfull, hfull]
    | ok full =>
      rw [joinUnderBy_of_resolve hbase hfull]
      refine iff_of_false ?_ ?_
      · split <;> nofun
      · simp [hfull]

/-- A served path is refused for a NUL if the root or the path has one. -/
theorem joinUnder_eq_nullByte :
    joinUnder root urlPath = .error (.unresolved .nullByte) ↔
      root.hasNul = true ∨ (relativeOf urlPath).hasNul = true := by
  rw [joinUnder, joinUnderBy_eq_unresolved, Path.resolve_eq_error, and_iff_left rfl]
  constructor
  · rintro (hroot | ⟨base, hbase, hfull⟩)
    · exact .inl hroot
    · rcases (Path.hasNul_join _ _).1 (Path.resolve_eq_error.1 hfull).1 with hnul | ⟨-, hnul⟩
      · exact .inr hnul
      · rw [(Path.resolve_eq_ok hbase).2.2] at hnul
        cases hnul
  · intro h
    cases hroot : root.hasNul with
    | true => exact .inl rfl
    | false =>
      have hpath := h.resolve_left (by simp [hroot])
      refine .inr ⟨root.place, Path.resolve_eq_place hroot, ?_⟩
      exact Path.resolve_eq_error.2 ⟨(Path.hasNul_join _ _).2 (.inl hpath), rfl⟩

/-- Without links there is no other fault. -/
theorem eq_nullByte_of_joinUnder {fault : LinkFault}
    (h : joinUnder root urlPath = .error (.unresolved fault)) : fault = .nullByte := by
  rcases joinUnderBy_eq_unresolved.1 h with hroot | ⟨base, -, hfull⟩
  · exact (Path.resolve_eq_error.1 hroot).2
  · exact (Path.resolve_eq_error.1 hfull).2

end Served

end Retrace

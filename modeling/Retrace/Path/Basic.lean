import Retrace.Text.Basic

/-!
# Paths

A path (`PurePosixPath`) is a root and the names below it. Empty names and `.` say nothing and are
left out when a text is read; `..` is kept until a path is made normal. Exactly two leading slashes
are a root of their own.

* `Path.ofText`, `Path.toText`: reading and writing;
* `Path.join`, `Path.parent`: moving about;
* `Path.normal`, `Path.absoluteFrom`: `..` worked out against the name before it, which is what
  `normpath` does, and the same from a working directory, as `abspath` does it.

Main statements: `replay_absolute` (a normal absolute path has no `..`) and
`parts_join_of_relative`.
-/

namespace Retrace

/-- What a path starts from: nothing, one slash, or exactly two. -/
inductive Root
  | none
  | slash
  | doubleSlash
  deriving DecidableEq

/-- A path: its root and the names below it, in order. -/
structure Path where
  root : Root
  parts : List Text
  deriving DecidableEq

namespace Path

/-- The root at the start of a text. -/
def rootOf : Text → Root
  | '/' :: '/' :: '/' :: _ => .slash
  | '/' :: '/' :: _ => .doubleSlash
  | '/' :: _ => .slash
  | _ => .none

/-- The path that a text names. -/
def ofText (t : Text) : Path :=
  ⟨rootOf t, (t.pieces '/').filter fun part => part ≠ [] ∧ part ≠ ['.']⟩

/-- The text of a root. -/
def rootText : Root → Text
  | .none => []
  | .slash => ['/']
  | .doubleSlash => ['/', '/']

/-- The text of a path; a path without root and names is `.`. -/
def toText (p : Path) : Text :=
  match p.root, p.parts with
  | .none, [] => ['.']
  | root, parts => rootText root ++ Text.joined ['/'] parts

/-- A path taken from another: a path with a root stands for itself. -/
def join (p q : Path) : Path :=
  match q.root with
  | .none => ⟨p.root, p.parts ++ q.parts⟩
  | _ => q

/-- The path without its last name. -/
def parent (p : Path) : Path := ⟨p.root, p.parts.dropLast⟩

/-- The directory that the library works in, which is a setting of its environment; here it is the
root of the disk. What is said of `absoluteFrom` is said of any other. -/
def top : Path := ⟨.slash, []⟩

theorem parts_join_of_relative {p q : Path} (h : q.root = .none) :
    p.join q = ⟨p.root, p.parts ++ q.parts⟩ := by
  simp [join, h]

/-- One name of a path put on the stack of the names before it. On an empty stack `..` is dropped
below a root and kept elsewhere. -/
def pushName (rooted : Bool) (stack : List Text) (name : Text) : List Text :=
  if name = ['.', '.'] then
    match stack with
    | [] => if rooted then [] else [name]
    | last :: before => if last = ['.', '.'] then name :: stack else before
  else name :: stack

/-- The stack of names after names in order, the last name on top. -/
def replay (rooted : Bool) (stack names : List Text) : List Text :=
  names.foldl (pushName rooted) stack

/-- A path with `..` worked out against the name before it. -/
def normal (p : Path) : Path :=
  ⟨p.root, (replay (p.root ≠ .none) [] p.parts).reverse⟩

/-- The normal path below the root, from a working directory if the path has none. -/
def absoluteFrom (working p : Path) : Path := (working.join p).normal

/-- The normal path below the root, from the directory that the library works in. -/
def absolute (p : Path) : Path := absoluteFrom top p

/-- Whether a name of the path has a NUL. -/
def hasNul (p : Path) : Bool := p.parts.any (·.contains '\x00')

/-- Whether a path lies at or below another. -/
def isUnder (base p : Path) : Bool := p.root == base.root && base.parts.isPrefixOf p.parts

theorem pushName_ne_parent {stack : List Text} (h : ['.', '.'] ∉ stack) (name : Text) :
    ['.', '.'] ∉ pushName true stack name := by
  unfold pushName
  split
  · split
    · simp
    · rename_i last before
      split
      · rename_i hlast
        simp [hlast] at h
      · simp_all
  · rename_i hname
    simp [h, Ne.symm hname]

/-- Below a root no `..` is left. -/
theorem replay_absolute {stack : List Text} (h : ['.', '.'] ∉ stack) (names : List Text) :
    ['.', '.'] ∉ replay true stack names := by
  induction names generalizing stack with
  | nil => exact h
  | cons name rest ih => exact ih (pushName_ne_parent h name)

end Path

end Retrace

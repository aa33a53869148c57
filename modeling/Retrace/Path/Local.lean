import Retrace.Text.Basic

/-!
# Local locations

The location of a frame in the file system often comes with a scheme or other text in front. What
counts (`normalize_local_path`) is the longest suffix that looks like a path: an optional drive,
then names and separators with no two separators together and a name at the end.

Main statement: `localSuffix?_eq_some`, the suffix is path-like, and no longer one is.
-/

namespace Retrace

/-- Whether a character may stand in a name of a local path. -/
def isNameChar (c : Char) : Bool :=
  c.isAlphanum || c == '_' || c == '.' || c == '@' || c == '-'

/-- Whether a character separates the names of a local path. -/
def isSeparator (c : Char) : Bool := c == '/' || c == '\\'

/-- What the last character of a run of names and separators was. -/
inductive RunState
  | start
  | separator
  | name
  deriving DecidableEq

/-- Whether a text goes on with a run of names and separators to a name at its end. -/
def isRunFrom : RunState → Text → Bool
  | state, [] => state == .name
  | state, c :: rest =>
    if isNameChar c then isRunFrom .name rest
    else isSeparator c && state != .separator && isRunFrom .separator rest

/-- Whether a text is a run of names and separators, after a drive or not. -/
def isPathLike : Text → Bool
  | drive :: ':' :: rest => drive.isUpper && isRunFrom .start rest
  | t => isRunFrom .start t

/-- The longest suffix of a text that looks like a path. -/
def localSuffix? : Text → Option Text
  | [] => none
  | c :: rest => if isPathLike (c :: rest) then some (c :: rest) else localSuffix? rest

/-- The path in the location of a frame: its longest path-like suffix, up to a line feed at the
end. A location with another line feed, or without such a suffix, stands for itself. -/
def localPath (location : Text) : Text :=
  let body := if location.getLast? = some '\n' then location.dropLast else location
  if '\n' ∈ body then location else (localSuffix? body).getD location

theorem isPathLike_nil : isPathLike [] = false := rfl

/-- The suffix found is path-like, and every longer suffix is not. -/
theorem localSuffix?_eq_some {t s : Text} :
    localSuffix? t = some s ↔
      isPathLike s = true ∧
        ∃ before, t = before ++ s ∧
          ∀ shorter longer, before = shorter ++ longer → longer ≠ [] →
            isPathLike (longer ++ s) = false := by
  induction t with
  | nil =>
    constructor
    · intro h
      simp [localSuffix?] at h
    · rintro ⟨hlike, before, heq, -⟩
      obtain ⟨-, rfl⟩ := List.append_eq_nil_iff.1 heq.symm
      simp [isPathLike_nil] at hlike
  | cons c rest ih =>
    rw [localSuffix?]
    split
    · rename_i hlike
      constructor
      · rintro ⟨⟩
        refine ⟨hlike, [], rfl, ?_⟩
        intro shorter longer hsplit hne
        exact absurd (List.append_eq_nil_iff.1 hsplit.symm).2 hne
      · rintro ⟨-, before, heq, hmax⟩
        cases before with
        | nil => exact congrArg some heq
        | cons x xs =>
          have := hmax [] (x :: xs) rfl (by simp)
          rw [← heq, hlike] at this
          exact absurd this (by simp)
    · rename_i hnot
      rw [ih]
      constructor
      · rintro ⟨hlike, before, rfl, hmax⟩
        refine ⟨hlike, c :: before, rfl, ?_⟩
        intro shorter longer hsplit hne
        cases shorter with
        | nil =>
          rw [List.nil_append] at hsplit
          rw [← hsplit]
          simpa using hnot
        | cons x xs =>
          simp only [List.cons_append, List.cons.injEq] at hsplit
          exact hmax xs longer hsplit.2 hne
      · rintro ⟨hlike, before, heq, hmax⟩
        cases before with
        | nil =>
          rw [List.nil_append] at heq
          rw [heq] at hnot
          exact absurd hlike hnot
        | cons x xs =>
          simp only [List.cons_append, List.cons.injEq] at heq
          refine ⟨hlike, xs, heq.2, ?_⟩
          intro shorter longer hsplit hne
          exact hmax (x :: shorter) longer (by simp [hsplit]) hne

end Retrace

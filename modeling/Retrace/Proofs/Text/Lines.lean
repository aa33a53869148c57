import Retrace.Text.Lines

/-!
# Lines read back

Lines that are joined by line feeds are the lines of the text, except that an empty line at the end
is not seen.

* `linesFrom_append_lineFeed`: the first line feed ends the line that is being read.

Main statement: `lines_joined`.
-/

namespace Retrace.Text

/-- Whether a text is a line: no character in it ends one. -/
def IsLine (t : Text) : Prop := ∀ c ∈ t, isLineEnd c = false

instance (t : Text) : Decidable t.IsLine :=
  decidable_of_iff (t.all (fun c => !isLineEnd c) = true) (by simp [IsLine])

theorem linesFrom_cons {c : Char} (h : c ≠ '\r') (opened rest : Text) :
    linesFrom opened (c :: rest) =
      if isLineEnd c then opened.reverse :: linesFrom [] rest
      else linesFrom (c :: opened) rest := by
  rw [linesFrom]
  intro rest hc
  exact absurd hc h

theorem linesFrom_cons_of_isLine {c : Char} {t : Text} (h : IsLine (c :: t))
    (opened rest : Text) : linesFrom opened (c :: rest) = linesFrom (c :: opened) rest := by
  have hc : isLineEnd c = false := h c List.mem_cons_self
  have hne : c ≠ '\r' := by
    rintro rfl
    cases hc
  rw [linesFrom_cons hne, hc, if_neg Bool.false_ne_true]

theorem IsLine.tail {c : Char} {t : Text} (h : IsLine (c :: t)) : IsLine t :=
  fun d hd => h d (List.mem_cons_of_mem c hd)

/-- A line feed ends the line that is being read. -/
theorem linesFrom_append_lineFeed {line : Text} (h : IsLine line) (opened rest : Text) :
    linesFrom opened (line ++ '\n' :: rest) = (opened.reverse ++ line) :: linesFrom [] rest := by
  induction line generalizing opened with
  | nil =>
    rw [List.nil_append, List.append_nil, linesFrom_cons (by decide)]
    rfl
  | cons c line ih =>
    rw [List.cons_append, linesFrom_cons_of_isLine h, ih h.tail, List.reverse_cons,
      List.append_assoc, List.singleton_append]

/-- What is left at the end is a line unless it is empty. -/
theorem linesFrom_of_isLine {line : Text} (h : IsLine line) (opened : Text) :
    linesFrom opened line =
      if opened.reverse ++ line = [] then [] else [opened.reverse ++ line] := by
  induction line generalizing opened with
  | nil =>
    rw [linesFrom]
    cases opened <;> simp
  | cons c line ih =>
    rw [linesFrom_cons_of_isLine h, ih h.tail, List.reverse_cons, List.append_assoc,
      List.singleton_append]

/-- Lines that are joined are read back, without an empty one at the end. -/
theorem lines_joined {ls : List Text} (h : ∀ line ∈ ls, IsLine line) :
    lines (joined ['\n'] ls) = if ls.getLast? = some [] then ls.dropLast else ls := by
  induction ls with
  | nil => rfl
  | cons line others ih =>
    obtain ⟨hline, hothers⟩ := List.forall_mem_cons.1 h
    cases others with
    | nil =>
      rw [joined, lines, linesFrom_of_isLine hline]
      cases line <;> simp
    | cons next more =>
      have hrest := ih hothers
      rw [joined_cons _ _ (List.cons_ne_nil next more), List.append_assoc, List.singleton_append,
        lines, linesFrom_append_lineFeed hline, ← lines, hrest, List.getLast?_cons_cons]
      split <;> rfl

end Retrace.Text

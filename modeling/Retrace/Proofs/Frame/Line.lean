import Retrace.Proofs.Frame.Grammar
import Retrace.Proofs.Number.Numeral

/-!
# Lines of a stack read back

The parts of a line can be told from the line. The first opening parenthesis ends the name, since
the name has none; the two numbers are found from the end, since they have no colon, and what is
left before them is the file, whatever colons, digits or parentheses it has.

* `FrameLine.Legible`: the parts that can be told from their line, which are among those of the
  grammar;
* `FrameLine.Spells.write_eq`: a line is written by the grammar.

Main statement: `FrameLine.read?_write`.
-/

namespace Retrace

/-- Whether a text is made of the digits of ASCII, at least one. -/
structure IsNumberText (t : Text) : Prop where
  ne_nil : t ≠ []
  digits : ∀ c ∈ t, c.isDigit = true

theorem isNumberText_natText (n : Nat) : IsNumberText (natText n) :=
  ⟨natText_ne_nil n, fun _ => isDigit_of_mem_natText⟩

theorem IsNumberText.isDecimalText {t : Text} (h : IsNumberText t) : IsDecimalText t :=
  ⟨h.ne_nil, fun c hc => isDecimal_of_isDigit (h.digits c hc)⟩

namespace FrameLine

/-- Parts of a line that can be told from the line. -/
inductive Legible : FrameLine → Prop
  | placeless {name : Text} (hname : name ≠ []) (hparen : '(' ∉ name) : Legible (.placeless name)
  | named {name file line column : Text} (hname : name ≠ []) (hparen : '(' ∉ name)
      (hfile : file ≠ []) (hfeed : '\n' ∉ file) (hline : IsNumberText line)
      (hcolumn : IsNumberText column) : Legible (.named name file line column)
  | nameless {file line column : Text} (hfile : file ≠ []) (hopen : '(' ∉ file)
      (hclose : ')' ∉ file) (hline : IsNumberText line) (hcolumn : IsNumberText column) :
      Legible (.nameless file line column)

theorem Legible.exists_spells {parts : FrameLine} (h : parts.Legible) :
    ∃ body, parts.Spells body := by
  cases h with
  | placeless hname hparen => exact ⟨_, .placeless hname hparen⟩
  | named hname hparen hfile hfeed hline hcolumn =>
    exact ⟨_, .named hname hparen hfile hfeed hline.isDecimalText hcolumn.isDecimalText⟩
  | nameless hfile hopen hclose hline hcolumn =>
    exact ⟨_, .nameless hfile hopen hclose hline.isDecimalText hcolumn.isDecimalText⟩

/-- A line is what its parts spell, behind four blanks and the word. -/
theorem Spells.write_eq {parts : FrameLine} {body : Text} (h : parts.Spells body) :
    parts.write = "    ".toList ++ ("at ".toList ++ body) := by
  have hword : ∀ rest, "    at ".toList ++ rest = "    ".toList ++ ("at ".toList ++ rest) :=
    fun _ => rfl
  have hopening : " (".toList = [' ', '('] := rfl
  rw [← hword]
  cases h with
  | placeless =>
    unfold write
    simp only [hopening, List.append_assoc, List.cons_append, List.nil_append]
  | named =>
    unfold write
    simp only [hopening, List.append_assoc, List.cons_append, List.nil_append]
  | nameless =>
    unfold write
    simp only [List.append_assoc, List.cons_append]

/-- The parts of a line are read back from it. -/
theorem read?_write {parts : FrameLine} (h : parts.Legible) : read? parts.write = some parts := by
  obtain ⟨body, hbody⟩ := h.exists_spells
  have hlead : Text.IsBlank "    ".toList := by decide
  have htrail : Text.IsBlank [] := nofun
  have hwritten := Written.intro hlead hbody htrail
  rw [List.append_nil, ← hbody.write_eq] at hwritten
  exact read?_eq_some_iff.2 ⟨_, _, hwritten⟩

end FrameLine

end Retrace

/-!
# Texts

A text is a list of characters, so that every grammar of the library is read by recursion on it.

* `pieces`, `joined`: cutting a text at a separator and the inverse;
* `cutAt?`: a text around the first occurrence of a character;
* `afterPrefix?`: what follows a prefix;
* `occursIn`: occurrence of one text inside another.

Main statements: `joined_pieces` (cutting loses nothing) and `pieces_ne_nil` (a cut has at least
one piece).
-/

namespace Retrace

/-- A text: its characters in order. -/
abbrev Text := List Char

namespace Text

/-- The pieces of a text between the occurrences of a separator; always at least one. -/
def pieces (sep : Char) : Text → List Text
  | [] => [[]]
  | c :: rest =>
    if c = sep then [] :: pieces sep rest
    else
      match pieces sep rest with
      | [] => [[c]]
      | piece :: others => (c :: piece) :: others

/-- Pieces put back together around a separator. -/
def joined (sep : Text) : List Text → Text
  | [] => []
  | [piece] => piece
  | piece :: others => piece ++ sep ++ joined sep others

@[simp] theorem pieces_nil (sep : Char) : pieces sep [] = [[]] := rfl

theorem pieces_ne_nil (sep : Char) (t : Text) : pieces sep t ≠ [] := by
  cases t with
  | nil => simp [pieces]
  | cons c rest =>
    rw [pieces]
    split
    · simp
    · split <;> simp

theorem joined_cons (sep piece : Text) {others : List Text} (h : others ≠ []) :
    joined sep (piece :: others) = piece ++ sep ++ joined sep others := by
  cases others with
  | nil => exact absurd rfl h
  | cons _ _ => rfl

/-- Cutting loses nothing. -/
theorem joined_pieces (sep : Char) (t : Text) : joined [sep] (pieces sep t) = t := by
  induction t with
  | nil => rfl
  | cons c rest ih =>
    rw [pieces]
    split
    · rename_i h
      rw [joined_cons _ _ (pieces_ne_nil sep rest), ih, h]
      rfl
    · split
      · rename_i h
        exact absurd h (pieces_ne_nil sep rest)
      · rename_i piece others h
        rw [h] at ih
        cases others with
        | nil =>
          simp only [joined] at ih ⊢
          rw [ih]
        | cons next more =>
          simp only [joined, List.cons_append] at ih ⊢
          rw [ih]

/-- The text before and after the first occurrence of a character, if there is one. -/
def cutAt? (sep : Char) : Text → Option (Text × Text)
  | [] => none
  | c :: rest =>
    if c = sep then some ([], rest)
    else (cutAt? sep rest).map fun (before, after) => (c :: before, after)

/-- A text is cut at the first occurrence, and nothing else is lost. -/
theorem cutAt?_eq_some {sep : Char} {t before after : Text} :
    cutAt? sep t = some (before, after) ↔ t = before ++ sep :: after ∧ sep ∉ before := by
  induction t generalizing before with
  | nil => simp [cutAt?]
  | cons c rest ih =>
    rw [cutAt?]
    split
    · rename_i h
      cases before <;> simp [h, eq_comm]
      grind
    · rename_i h
      cases before with
      | nil => simp [h]
      | cons d ds =>
        simp only [Option.map_eq_some_iff, Prod.exists, Prod.mk.injEq, List.cons.injEq,
          List.cons_append, List.mem_cons, not_or]
        grind

/-- What follows a prefix, if the text starts with it. -/
def afterPrefix? : Text → Text → Option Text
  | [], t => some t
  | _ :: _, [] => none
  | p :: ps, c :: rest => if p = c then afterPrefix? ps rest else none

@[simp] theorem afterPrefix?_nil (t : Text) : afterPrefix? [] t = some t := rfl

/-- Reading a prefix off succeeds exactly on the texts that start with it. -/
theorem afterPrefix?_eq_some {p t rest : Text} : afterPrefix? p t = some rest ↔ t = p ++ rest := by
  induction p generalizing t with
  | nil => simp [afterPrefix?, eq_comm]
  | cons x xs ih =>
    cases t with
    | nil => simp [afterPrefix?]
    | cons c cs =>
      by_cases h : x = c
      · simp [afterPrefix?, h, ih]
      · simp [afterPrefix?, h, eq_comm]

/-- Whether a text starts with another. -/
def startsWith (p t : Text) : Bool := (afterPrefix? p t).isSome

/-- Whether a text occurs inside another. -/
def occursIn (part : Text) : Text → Bool
  | [] => part.isEmpty
  | c :: rest => startsWith part (c :: rest) || occursIn part rest

/-- A text without the characters of a class at its end. -/
def dropEndWhile (p : Char → Bool) (t : Text) : Text := (t.reverse.dropWhile p).reverse

/-- The characters of a class that a text ends with. -/
def takeEndWhile (p : Char → Bool) (t : Text) : Text := (t.reverse.takeWhile p).reverse

/-- A text is its part before a run at the end, and that run. -/
theorem dropEndWhile_append_takeEndWhile (p : Char → Bool) (t : Text) :
    dropEndWhile p t ++ takeEndWhile p t = t := by
  rw [dropEndWhile, takeEndWhile, ← List.reverse_append, List.takeWhile_append_dropWhile,
    List.reverse_reverse]

end Text

end Retrace

import Retrace.Text.Basic

/-!
# Templates

A text with slots: `$`, a name in braces, where the name is not empty and has no closing brace. This
is the pattern of `substitute_env_vars`, and filling it is `re.sub`. A template is read once, and
what fills a slot stands as it is, whatever it looks like.

* `Template`, `Template.ofText`, `Template.toText`: reading and writing;
* `Template.fill`: the text that comes of filling the slots.

Main statements: `toText_ofText`, reading loses nothing, and `fill_eq_error`, the first slot that
cannot be filled is the one that is told.
-/

namespace Retrace

/-- A part of a template. -/
inductive TemplatePart
  | char (c : Char)
  | slot (name : Text)
  deriving DecidableEq

/-- A text with slots: its parts in order. -/
abbrev Template := List TemplatePart

/-- The text of a part. -/
def TemplatePart.toText : TemplatePart → Text
  | .char c => [c]
  | .slot name => '$' :: '\x7b' :: (name ++ ['\x7d'])

namespace Template

/-- The name of the slot that a text starts with, and what follows the slot. -/
def slot? : Text → Option (Text × Text)
  | '$' :: '\x7b' :: rest =>
    match Text.cutAt? '\x7d' rest with
    | some (name, after) => if name.isEmpty then none else some (name, after)
    | none => none
  | _ => none

theorem eq_of_slot? {t name after : Text} (h : slot? t = some (name, after)) :
    t = (TemplatePart.slot name).toText ++ after := by
  unfold slot? at h
  split at h
  · split at h
    · rename_i hcut
      split at h
      · simp at h
      · simp only [Option.some.injEq, Prod.mk.injEq] at h
        obtain ⟨rfl, rfl⟩ := h
        simp [(Text.cutAt?_eq_some.1 hcut).1, TemplatePart.toText]
    · simp at h
  · simp at h

theorem length_lt_of_slot? {t name after : Text} (h : slot? t = some (name, after)) :
    after.length < t.length := by
  rw [eq_of_slot? h]
  simp [TemplatePart.toText]
  omega

/-- The template that a text is. -/
def ofText (t : Text) : Template :=
  match _h : slot? t with
  | some (name, after) => .slot name :: ofText after
  | none =>
    match t with
    | [] => []
    | c :: rest => .char c :: ofText rest
termination_by t.length
decreasing_by
  · exact length_lt_of_slot? (by assumption)
  · simp

/-- The text that a template is read from. -/
def toText (template : Template) : Text := template.flatMap TemplatePart.toText

/-- Reading loses nothing. -/
theorem toText_ofText (t : Text) : toText (ofText t) = t := by
  fun_induction ofText t with
  | case1 t name after h ih =>
    rw [toText, List.flatMap_cons, ← toText, ih]
    exact (eq_of_slot? h).symm
  | case2 => rfl
  | case3 c rest h ih =>
    rw [toText, List.flatMap_cons, ← toText, ih]
    rfl

/-- What fills the slots of a template: a text for a name. -/
abbrev Filling := Text → Option Text

/-- The text that comes of filling the slots, or the name of the first that cannot be filled. -/
def fill (filling : Filling) : Template → Except Text Text
  | [] => .ok []
  | .char c :: rest => (fill filling rest).map (c :: ·)
  | .slot name :: rest =>
    match filling name with
    | some value => (fill filling rest).map (value ++ ·)
    | none => .error name

/-- The names of the slots of a template in order. -/
def names : Template → List Text
  | [] => []
  | .char _ :: rest => names rest
  | .slot name :: rest => name :: names rest

/-- The first slot that cannot be filled is the one that is told. -/
theorem fill_eq_error {filling : Filling} {template : Template} {name : Text} :
    fill filling template = .error name ↔
      template.names.find? (fun name => (filling name).isNone) = some name := by
  fun_induction fill filling template with
  | case1 => simp [names]
  | case2 c rest ih => cases h : fill filling rest <;> simp_all [names, Except.map]
  | case3 other rest value hvalue ih =>
    cases h : fill filling rest <;> simp_all [names, Except.map]
  | case4 other rest hvalue => simp [names, hvalue]

/-- The text that comes of filling the slots of a text. -/
def render (filling : Filling) (t : Text) : Except Text Text := fill filling (ofText t)

end Template

end Retrace

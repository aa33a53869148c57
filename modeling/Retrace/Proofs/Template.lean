import Mathlib.Data.List.Infix
import Retrace.Settings.Load

/-!
# Filling templates

A text that is written as stretches with a slot between each two of them is read as just these
slots: no stretch has a place where a slot could begin, and a slot ends at the first closing brace.
Stray characters of a slot beside it change nothing, and neither does the start of another slot
inside a name. The values of the slots are not read again.

* `Stretch`, `SlotName`: what stands between slots, and in them;
* `Slotted`: a text with slots as it is written;
* `ofText_stretch_append`, `ofText_slot_append`: reading it part by part;
* `fill_stretch`: filling leaves stretches alone.

Main statement: `Settings.fillSlots_toText`.
-/

namespace Retrace

/-- The two characters that a slot begins with. -/
def slotOpening : Text := ['$', '\x7b']

/-- Whether a text has no place where a slot could begin. -/
def Stretch (t : Text) : Prop := ¬ slotOpening <:+: t

/-- Whether a text can stand between the braces of a slot. -/
def SlotName (t : Text) : Prop := t ≠ [] ∧ '\x7d' ∉ t

/-- A text with slots as it is written: a stretch, and slots with the stretch after each. -/
structure Slotted where
  lead : Text
  slots : List (Text × Text)
  lead_stretch : Stretch lead
  slots_named : ∀ slot ∈ slots, SlotName slot.1
  slots_stretch : ∀ slot ∈ slots, Stretch slot.2

namespace Slotted

/-- The text of slots and of what stands after each of them. -/
def slotsText : List (Text × Text) → Text
  | [] => []
  | (name, stretch) :: rest => (TemplatePart.slot name).toText ++ (stretch ++ slotsText rest)

/-- A text with slots. -/
def toText (s : Slotted) : Text := s.lead ++ slotsText s.slots

end Slotted

namespace Template

/-! ### Reading -/

/-- A slot begins with a dollar sign and an opening brace. -/
theorem slot?_eq_none {t : Text} (h : ¬ slotOpening <+: t) : slot? t = none := by
  unfold slot?
  split
  · next rest => exact absurd ⟨rest, rfl⟩ h
  · rfl

/-- A slot is read up to its first closing brace, whatever else is in its name. -/
theorem slot?_slot_append {name : Text} (h : SlotName name) (after : Text) :
    slot? ((TemplatePart.slot name).toText ++ after) = some (name, after) := by
  have hcut : Text.cutAt? '\x7d' (name ++ '\x7d' :: after) = some (name, after) :=
    Text.cutAt?_eq_some.2 ⟨rfl, h.2⟩
  have htext : (TemplatePart.slot name).toText ++ after =
      '$' :: '\x7b' :: (name ++ '\x7d' :: after) := by
    simp [TemplatePart.toText]
  rw [htext, slot?, hcut]
  simp [h.1]

theorem ofText_slot_append {name : Text} (h : SlotName name) (after : Text) :
    ofText ((TemplatePart.slot name).toText ++ after) = .slot name :: ofText after := by
  rw [ofText]
  split
  · next hslot =>
    rw [slot?_slot_append h, Option.some.injEq, Prod.mk.injEq] at hslot
    obtain ⟨rfl, rfl⟩ := hslot
    rfl
  · next hslot =>
    rw [slot?_slot_append h] at hslot
    cases hslot

theorem ofText_nil : ofText [] = [] := by
  rw [ofText]
  rfl

theorem ofText_char_cons {c : Char} {rest : Text} (h : ¬ slotOpening <+: c :: rest) :
    ofText (c :: rest) = .char c :: ofText rest := by
  rw [ofText]
  split
  · next hslot =>
    rw [slot?_eq_none h] at hslot
    cases hslot
  · rfl

/-- Whether a text does not begin with the brace of a slot. -/
def Parted (t : Text) : Prop := t.head? ≠ some '\x7b'

theorem parted_slotsText (slots : List (Text × Text)) : Parted (Slotted.slotsText slots) := by
  cases slots with
  | nil => exact nofun
  | cons slot rest => exact show some '$' ≠ some '\x7b' by decide

/-- A stretch is read character by character. A dollar sign at its end begins no slot. -/
theorem ofText_stretch_append {t after : Text} (h : Stretch t) (hafter : Parted after) :
    ofText (t ++ after) = t.map .char ++ ofText after := by
  induction t with
  | nil => rfl
  | cons c rest ih =>
    have hrest : Stretch rest := fun hin => h (hin.trans (List.suffix_cons c rest).isInfix)
    have hc : ¬ slotOpening <+: c :: (rest ++ after) := by
      rintro ⟨others, hothers⟩
      rw [slotOpening, List.cons_append, List.cons.injEq] at hothers
      obtain ⟨rfl, hbrace⟩ := hothers
      -- the brace after the dollar sign is in the stretch, or it is what comes after it
      cases rest with
      | nil =>
        rw [List.nil_append] at hbrace
        exact hafter (by rw [← hbrace]; rfl)
      | cons d more =>
        rw [List.cons_append, List.cons_append, List.cons.injEq] at hbrace
        obtain ⟨rfl, -⟩ := hbrace
        exact h (List.prefix_append slotOpening more).isInfix
    rw [List.cons_append, ofText_char_cons hc, ih hrest]
    rfl

/-! ### Filling -/

/-- Filling leaves stretches alone. -/
theorem fill_stretch_append (filling : Filling) (t : Text) (template : Template) :
    fill filling (t.map .char ++ template) = (fill filling template).map (t ++ ·) := by
  induction t with
  | nil =>
    rw [List.map_nil, List.nil_append]
    cases fill filling template <;> rfl
  | cons c rest ih =>
    rw [List.map_cons, List.cons_append, fill, ih]
    cases fill filling template <;> rfl

/-- Slots that are filled, each before the stretch that stands after it. -/
def filledText (filling : Filling) (slots : List (Text × Text)) : Text :=
  slots.flatMap fun slot => (filling slot.1).getD [] ++ slot.2

/-- What comes of slots: their values with the stretches after them, or the first that has none. -/
theorem render_slotsText (filling : Filling) {slots : List (Text × Text)}
    (hnamed : ∀ slot ∈ slots, SlotName slot.1) (hstretch : ∀ slot ∈ slots, Stretch slot.2) :
    render filling (Slotted.slotsText slots) =
      match slots.find? fun slot => (filling slot.1).isNone with
      | some slot => .error slot.1
      | none => .ok (filledText filling slots) := by
  induction slots with
  | nil =>
    rw [Slotted.slotsText, render, ofText_nil]
    rfl
  | cons slot rest ih =>
    obtain ⟨name, stretch⟩ := slot
    rw [List.forall_mem_cons] at hnamed hstretch
    have hread : ofText (Slotted.slotsText ((name, stretch) :: rest)) =
        .slot name :: (stretch.map .char ++ ofText (Slotted.slotsText rest)) := by
      rw [Slotted.slotsText, ofText_slot_append hnamed.1,
        ofText_stretch_append hstretch.1 (parted_slotsText rest)]
    rw [render, hread, fill, List.find?_cons]
    cases hvalue : filling name with
    | none => rfl
    | some value =>
      rw [fill_stretch_append, ← render, ih hnamed.2 hstretch.2]
      simp only [Option.isNone_some, filledText, List.flatMap_cons, hvalue, Option.getD_some]
      cases rest.find? fun slot => (filling slot.1).isNone with
      | none => simp [Except.map]
      | some other => rfl

/-- What comes of a text with slots. -/
theorem render_toText (filling : Filling) (s : Slotted) :
    render filling s.toText =
      match s.slots.find? fun slot => (filling slot.1).isNone with
      | some slot => .error slot.1
      | none => .ok (s.lead ++ filledText filling s.slots) := by
  have hread : ofText s.toText = s.lead.map .char ++ ofText (Slotted.slotsText s.slots) :=
    ofText_stretch_append s.lead_stretch (parted_slotsText s.slots)
  rw [render, hread, fill_stretch_append, ← render,
    render_slotsText filling s.slots_named s.slots_stretch]
  cases s.slots.find? fun slot => (filling slot.1).isNone with
  | none => rfl
  | some slot => rfl

end Template

/-- The slots of a text are filled with the values of variables, which stand as they are. If there
are slots without a variable the first of them is told. -/
theorem Settings.fillSlots_toText (env : Variables) (s : Slotted) :
    fillSlots env s.toText =
      match s.slots.find? fun slot => (env.get? slot.1).isNone with
      | some slot => .error (.noVariable slot.1)
      | none =>
        .ok (s.lead ++ s.slots.flatMap fun slot => (env.get? slot.1).getD [] ++ slot.2) := by
  rw [fillSlots, Template.render_toText]
  cases s.slots.find? fun slot => (env.get? slot.1).isNone with
  | none => rfl
  | some slot => rfl

/-- A slot after a dollar sign, and with another opening in its name; a brace stands after it. -/
def oddSlots : Slotted where
  lead := "$".toList
  slots := [("a$\x7bb".toList, "\x7d".toList)]
  lead_stretch := by
    unfold Stretch
    decide
  slots_named := by
    unfold SlotName
    decide
  slots_stretch := by
    unfold Stretch
    decide

/-- Odd slots, with a value that looks like a slot, and without one. -/
theorem Settings.fillSlots_toText_odd :
    oddSlots.toText = "$$\x7ba$\x7bb\x7d\x7d".toList ∧
      fillSlots [("a$\x7bb".toList, "$\x7ba\x7d\\1".toList)] oddSlots.toText =
        .ok "$$\x7ba\x7d\\1\x7d".toList ∧
      fillSlots [] oddSlots.toText = .error (.noVariable "a$\x7bb".toList) := by
  refine ⟨rfl, ?_, ?_⟩
  · rw [fillSlots_toText]
    rfl
  · rw [fillSlots_toText]
    rfl

end Retrace

import Retrace.Proofs.Text.Pieces
import Retrace.Proofs.Text.Utf8

/-!
# Lines of malformed UTF-8

A line feed is a byte of no other character, so a reader that is inside a character gives it up
there. What is malformed therefore never reaches past the end of its line, and no line feed is made
up either: to read bytes with replacements and cut the text into lines is to cut the bytes into
lines and read each of them on its own.

* `Opened.Sound`: the characters that a reader can be inside of;
* `lossyStep`: what one byte adds to the text, and where it leaves the reader;
* `decodeLossyFrom_append_lineFeed`: a line feed parts what is read before it from what is read
  after it.

Main statement: `pieces_decodeLossy`.
-/

namespace Retrace.Utf8

/-- The byte that ends a line. -/
def lineFeed : UInt8 := 0x0A

/-! ### Characters that have begun -/

/-- Whether a character that has begun goes on with further bytes only and comes to a code point
beyond ASCII. -/
structure Opened.Sound (o : Opened) : Prop where
  low_ge : 0x80 ≤ o.low
  value_ge : 2 ≤ o.value * 64 + (o.low - 0x80)
  last_ge : o.owed ≤ 1 → 2 ≤ o.value

theorem sound_of_first {byte : UInt8} {o : Opened} (h : first byte = .opened o) : o.Sound := by
  rw [first] at h
  split at h
  · cases h
  split at h
  · cases h
  split at h
  · obtain rfl := Step.opened.inj h
    exact ⟨Nat.le_refl _, by dsimp only; omega, by dsimp only; omega⟩
  split at h
  · obtain rfl := Step.opened.inj h
    refine ⟨?_, ?_, ?_⟩ <;> dsimp only
    · split <;> omega
    · split <;> omega
    · omega
  split at h
  · obtain rfl := Step.opened.inj h
    refine ⟨?_, ?_, ?_⟩ <;> dsimp only
    · split <;> omega
    · split <;> omega
    · omega
  · cases h

theorem eq_of_ofNat_eq_lineFeed {n : Nat} (h : Char.ofNat n = '\n') : n = 0x0A := by
  by_cases hn : n.isValidChar
  · rw [Char.ofNat, dif_pos hn] at h
    exact congrArg Char.toNat h
  · rw [Char.ofNat, dif_neg hn] at h
    cases h

/-- A byte between characters is a line feed only if it is the byte that ends a line. -/
theorem first_ne_lineFeed {byte : UInt8} {c : Char} (hbyte : byte ≠ lineFeed)
    (h : first byte = .char c) : c ≠ '\n' := by
  rintro rfl
  rw [first] at h
  split at h
  · exact hbyte (UInt8.toNat_inj.1 (eq_of_ofNat_eq_lineFeed (Step.char.inj h)))
  repeat' split at h
  all_goals cases h

namespace Opened.Sound

variable {o o' : Opened} {byte : UInt8} {c : Char}

theorem next_opened (h : o.Sound) (hnext : o.next byte = .opened o') : o'.Sound := by
  obtain ⟨hlow, hvalue, -⟩ := h
  rw [next] at hnext
  dsimp only at hnext
  split at hnext
  · split at hnext
    · cases hnext
    · obtain rfl := Step.opened.inj hnext
      exact ⟨Nat.le_refl _, by dsimp only; omega, by dsimp only; omega⟩
  · cases hnext

/-- A character is given up at a line feed. -/
theorem next_lineFeed (h : o.Sound) : o.next lineFeed = .refused := by
  have hlow := h.low_ge
  have hcode : lineFeed.toNat = 0x0A := rfl
  rw [next]
  exact if_neg (by omega)

/-- A character of several bytes is no line feed. -/
theorem ne_lineFeed (h : o.Sound) (hnext : o.next byte = .char c) : c ≠ '\n' := by
  rintro rfl
  rw [next] at hnext
  dsimp only at hnext
  split at hnext
  · split at hnext
    · rename_i howed
      have hvalue := h.last_ge howed
      have hcode := eq_of_ofNat_eq_lineFeed (Step.char.inj hnext)
      omega
    · cases hnext
  · cases hnext

end Opened.Sound

/-! ### Byte by byte -/

/-- What a byte between characters adds to the text, and the character that it leaves open. -/
def Step.emitted : Step → Text × Option Opened
  | .char c => ([c], none)
  | .opened o => ([], some o)
  | .refused => ([replacement], none)

/-- What stands for a character that is given up. -/
def flushed (opened : Option Opened) : Text := if opened.isSome then [replacement] else []

/-- What a byte adds to the text, and the character that it leaves open. -/
def lossyStep (opened : Option Opened) (byte : UInt8) : Text × Option Opened :=
  match (opened.map fun o => o.next byte : Option Step) with
  | some (.char c) => ([c], none)
  | some (.opened o) => ([], some o)
  | _ => (flushed opened ++ (first byte).emitted.1, (first byte).emitted.2)

theorem decodeLossyFrom_cons (opened : Option Opened) (byte : UInt8) (rest : Bytes) :
    decodeLossyFrom opened (byte :: rest) =
      (lossyStep opened byte).1 ++ decodeLossyFrom (lossyStep opened byte).2 rest := by
  rw [decodeLossyFrom, lossyStep]
  cases opened with
  | none => cases first byte <;> simp [flushed, Step.emitted]
  | some o =>
    cases hnext : o.next byte with
    | refused => cases first byte <;> simp [hnext, flushed, Step.emitted]
    | _ => simp [hnext]

section Steps

variable {opened : Option Opened} {byte : UInt8}

theorem lossyStep_sound (h : ∀ o ∈ opened, o.Sound) : ∀ o ∈ (lossyStep opened byte).2, o.Sound := by
  intro o ho
  have hfirst : o ∈ (first byte).emitted.2 → o.Sound := by
    intro hmem
    cases hbyte : first byte with
    | opened other =>
      rw [hbyte] at hmem
      cases hmem
      exact sound_of_first hbyte
    | _ =>
      rw [hbyte] at hmem
      cases hmem
  unfold lossyStep at ho
  split at ho
  · cases ho
  · next other hnext =>
    cases ho
    obtain ⟨before, hbefore, hstep⟩ := Option.map_eq_some_iff.1 hnext
    exact (h before hbefore).next_opened hstep
  · exact hfirst ho

/-- A line feed ends what was open, and nothing else ends a line. -/
theorem lossyStep_lineFeed (h : ∀ o ∈ opened, o.Sound) :
    lossyStep opened lineFeed = (flushed opened ++ ['\n'], none) := by
  cases opened with
  | none => rfl
  | some o =>
    rw [lossyStep, Option.map_some, (h o rfl).next_lineFeed]
    rfl

theorem lineFeed_not_mem_flushed (opened : Option Opened) : '\n' ∉ flushed opened := by
  cases opened with
  | none => exact List.not_mem_nil
  | some o => exact show '\n' ∉ [replacement] by decide

theorem lineFeed_not_mem_lossyStep (h : ∀ o ∈ opened, o.Sound) (hbyte : byte ≠ lineFeed) :
    '\n' ∉ (lossyStep opened byte).1 := by
  have hfirst : '\n' ∉ (first byte).emitted.1 := by
    cases hstep : first byte with
    | char c => simpa [Step.emitted, eq_comm] using first_ne_lineFeed hbyte hstep
    | opened o => exact List.not_mem_nil
    | refused => decide
  unfold lossyStep
  split
  · next c hnext =>
    obtain ⟨o, ho, hstep⟩ := Option.map_eq_some_iff.1 hnext
    simpa [eq_comm] using (h o ho).ne_lineFeed hstep
  · exact List.not_mem_nil
  · rw [List.mem_append, not_or]
    exact ⟨lineFeed_not_mem_flushed opened, hfirst⟩

end Steps

/-! ### Line by line -/

/-- A line feed parts what is read before it from what is read after it. -/
theorem decodeLossyFrom_append_lineFeed {opened : Option Opened} (h : ∀ o ∈ opened, o.Sound)
    (before after : Bytes) :
    decodeLossyFrom opened (before ++ lineFeed :: after) =
      decodeLossyFrom opened before ++ '\n' :: decodeLossyFrom none after := by
  induction before generalizing opened with
  | nil =>
    rw [List.nil_append, decodeLossyFrom_cons, lossyStep_lineFeed h, List.append_assoc]
    rfl
  | cons byte rest ih =>
    rw [List.cons_append, decodeLossyFrom_cons, decodeLossyFrom_cons, ih (lossyStep_sound h),
      List.append_assoc]

/-- No line feed is read where there is none. -/
theorem lineFeed_not_mem_decodeLossyFrom {opened : Option Opened} (h : ∀ o ∈ opened, o.Sound)
    {bytes : Bytes} (hbytes : lineFeed ∉ bytes) : '\n' ∉ decodeLossyFrom opened bytes := by
  induction bytes generalizing opened with
  | nil => exact lineFeed_not_mem_flushed opened
  | cons byte rest ih =>
    obtain ⟨hbyte, hrest⟩ := List.ne_and_not_mem_of_not_mem_cons hbytes
    rw [decodeLossyFrom_cons, List.mem_append, not_or]
    exact ⟨lineFeed_not_mem_lossyStep h hbyte.symm, ih (lossyStep_sound h) hrest⟩

/-- The lines of bytes that are read with replacements are their lines, each read on its own. -/
theorem pieces_decodeLossy (bytes : Bytes) :
    Text.pieces '\n' (decodeLossy bytes) = (bytes.splitOn lineFeed).map decodeLossy := by
  induction hlength : bytes.length using Nat.strongRecOn generalizing bytes with
  | ind length ih =>
    have hclosed : ∀ o ∈ (none : Option Opened), o.Sound := nofun
    by_cases hmem : lineFeed ∈ bytes
    · obtain ⟨line, rest, rfl, hline⟩ := List.eq_append_cons_of_mem hmem
      have hfirst : Text.pieces '\n' (decodeLossy line) = [decodeLossy line] :=
        Text.pieces_of_not_mem (lineFeed_not_mem_decodeLossyFrom hclosed hline)
      have hrest : Text.pieces '\n' (decodeLossy rest) =
          (rest.splitOn lineFeed).map decodeLossy := by
        refine ih rest.length ?_ rest rfl
        rw [← hlength, List.length_append, List.length_cons]
        omega
      rw [decodeLossy, decodeLossyFrom_append_lineFeed hclosed, Text.pieces_append_sep,
        List.splitOn_append_cons_self, List.splitOn_eq_singleton hline]
      change Text.pieces '\n' (decodeLossy line) ++ Text.pieces '\n' (decodeLossy rest) = _
      rw [hfirst, hrest, List.map_append]
      rfl
    · rw [List.splitOn_eq_singleton hmem]
      exact Text.pieces_of_not_mem (lineFeed_not_mem_decodeLossyFrom hclosed hmem)

end Retrace.Utf8

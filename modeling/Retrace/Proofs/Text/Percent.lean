import Retrace.Proofs.Text.Utf8
import Retrace.Text.Percent

/-!
# Decoding percent-encoded texts

A text without a percent sign stands for itself, so a decoded text is only changed by decoding it
again if a percent sign is left in it. A slash at the start stays where it is. Bytes that are
written in digits, all of them or all but the unreserved ones, are read as they are.

* `Spells`: the texts of bytes, with digits of either case.

Main statements: `text_of_not_mem`, `text_slash` and `bytes_of_spells`.
-/

namespace Retrace.Percent

theorem bytes_of_not_mem {t : Text} (h : '%' ∉ t) : bytes t = Utf8.encode t := by
  induction t with
  | nil => rfl
  | cons c rest ih =>
    obtain ⟨hc, hrest⟩ := List.ne_and_not_mem_of_not_mem_cons h
    rw [bytes_plain hc.symm, ih hrest, Utf8.encode, Utf8.encode, List.flatMap_cons]

theorem textFrom_of_not_mem {run t : Text} (hrun : '%' ∉ run) (h : '%' ∉ t) :
    textFrom run t = run.reverse ++ t := by
  have hdecoded : ∀ run : Text, '%' ∉ run →
      Utf8.decodeLossy (bytes run.reverse) = run.reverse := by
    intro run hrun
    rw [bytes_of_not_mem (by simpa using hrun), Utf8.decodeLossy_encode]
  induction t generalizing run with
  | nil => rw [textFrom, hdecoded run hrun, List.append_nil]
  | cons c rest ih =>
    obtain ⟨hc, hrest⟩ := List.ne_and_not_mem_of_not_mem_cons h
    rw [textFrom]
    split
    · rw [ih (by simp [hc, hrun]) hrest, List.reverse_cons, List.append_assoc]
      rfl
    · rw [hdecoded run hrun, ih List.not_mem_nil hrest]
      rfl

/-- A text without a percent sign stands for itself. -/
theorem text_of_not_mem {t : Text} (h : '%' ∉ t) : text t = t :=
  textFrom_of_not_mem List.not_mem_nil h

theorem decodeLossy_bytes_slash (t : Text) :
    Utf8.decodeLossy (bytes ('/' :: t)) = '/' :: Utf8.decodeLossy (bytes t) := by
  rw [bytes_plain (by decide)]
  rfl

theorem textFrom_append_slash (run t : Text) :
    textFrom (run ++ ['/']) t = '/' :: textFrom run t := by
  induction t generalizing run with
  | nil =>
    rw [textFrom, textFrom, List.reverse_append]
    exact decodeLossy_bytes_slash _
  | cons c rest ih =>
    rw [textFrom, textFrom]
    split
    · exact ih (c :: run)
    · rw [List.reverse_append]
      exact congrArg (· ++ c :: textFrom [] rest) (decodeLossy_bytes_slash _)

/-- A slash at the start of a text stays there. -/
theorem text_slash (t : Text) : text ('/' :: t) = '/' :: text t :=
  textFrom_append_slash [] t

/-- Whether a text writes bytes: each in two digits of either case or, if it is unreserved, as a
character. -/
inductive Spells : Bytes → Text → Prop
  | nil : Spells [] []
  | plain {byte : UInt8} {rest : Bytes} {t : Text} (h : isUnreserved byte = true)
      (hrest : Spells rest t) : Spells (byte :: rest) (Char.ofNat byte.toNat :: t)
  | digits {byte : UInt8} {a b : Char} {rest : Bytes} {t : Text} (h : hexByte? a b = some byte)
      (hrest : Spells rest t) : Spells (byte :: rest) ('%' :: a :: b :: t)

/-- Bytes are read in whatever way they are written. -/
theorem bytes_of_spells {written : Bytes} {t : Text} (h : Spells written t) :
    bytes t = written := by
  induction h with
  | nil => rfl
  | @plain byte rest t h hrest ih =>
    have hbyte := bytes_encodeByte byte t
    rw [encodeByte, if_pos h, ih] at hbyte
    exact hbyte
  | digits h hrest ih => rw [bytes, h, ih]

end Retrace.Percent

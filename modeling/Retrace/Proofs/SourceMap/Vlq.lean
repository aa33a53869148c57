import Mathlib.Data.Nat.Digits.Defs
import Retrace.Proofs.Outcome
import Retrace.SourceMap.Vlq

/-!
# Runs of numbers

A number is written in digits that each say that more follow, and a last one that does not; the
others of its bits make up the number, the least of them first. A text is a run of numbers if it
can be cut into such parts, and then it is read as these numbers.

* `Vlq.Writes`: the texts of a number, redundant digits among them;
* `Vlq.Run`: the texts of a run of numbers;
* `decodeFrom_of_writes`: the reader stands at the next number after each;
* `run_of_decodeFrom`: what is read, after digits that are still pending, is a run.

Main statement: `decode_eq_ok`.
-/

namespace Retrace.Vlq

/-- The number whose digits are given, the least of them first, each with the bit that says whether
more follow. -/
def digitsValue (digits : List Nat) : Nat := Nat.ofDigits 32 (digits.map (· % 32))

/-- Whether a text writes a number: digits that say that more follow, and one that does not. -/
inductive Writes : Text → Int → Prop
  | mk {text : Text} {more : List Nat} {last : Nat}
      (hdigits : text.map Base64.digitValue? = (more ++ [last]).map some)
      (hmore : ∀ d ∈ more, 32 ≤ d) (hlast : last < 32) :
      Writes text (signed (digitsValue (more ++ [last])))

/-- Whether a text writes a run of numbers, one after the other. -/
inductive Run : Text → List Int → Prop
  | nil : Run [] []
  | cons {part rest : Text} {n : Int} {others : List Int} (h : Writes part n)
      (hrest : Run rest others) : Run (part ++ rest) (n :: others)

theorem digitsValue_cons (d : Nat) (digits : List Nat) :
    digitsValue (d :: digits) = d % 32 + 32 * digitsValue digits := by
  rw [digitsValue, List.map_cons, Nat.ofDigits_cons, digitsValue]

theorem digitsValue_concat (digits : List Nat) (d : Nat) :
    digitsValue (digits ++ [d]) = digitsValue digits + d % 32 * 32 ^ digits.length := by
  rw [digitsValue, List.map_append, Nat.ofDigits_append, List.map_singleton, Nat.ofDigits_singleton,
    List.length_map, Nat.mul_comm, digitsValue]

/-! ### Reading what is written -/

/-- After the digits of a number the reader stands at the next, with the number put in front. -/
theorem decodeFrom_of_writes (whole rest : Text) {text : Text} {more : List Nat} {last : Nat}
    (hdigits : text.map Base64.digitValue? = (more ++ [last]).map some)
    (hmore : ∀ d ∈ more, 32 ≤ d) (hlast : last < 32) (value weight : Nat) :
    decodeFrom whole value weight (text ++ rest) =
      (decodeFrom whole 0 1 rest).map
        (signed (value + digitsValue (more ++ [last]) * weight) :: ·) := by
  induction more generalizing text value weight with
  | nil =>
    obtain ⟨c, others, rfl, hc, hothers⟩ := List.map_eq_cons_iff.1 hdigits
    obtain rfl := List.map_eq_nil_iff.1 hothers
    have hvalue : digitsValue [last] = last % 32 := by
      rw [digitsValue, List.map_singleton, Nat.ofDigits_singleton]
    simp only [List.nil_append, List.singleton_append, decodeFrom, hc, Nat.not_le.2 hlast, if_false,
      hvalue]
  | cons d more ih =>
    obtain ⟨c, others, rfl, hc, hothers⟩ := List.map_eq_cons_iff.1 hdigits
    have hsum : value + d % 32 * weight + digitsValue (more ++ [last]) * (weight * 32) =
        value + digitsValue (d :: (more ++ [last])) * weight := by
      rw [digitsValue_cons]
      ring
    simp only [List.cons_append, decodeFrom, hc, hmore d List.mem_cons_self, if_true]
    rw [ih hothers fun d hd => hmore d (List.mem_cons_of_mem _ hd), hsum]

theorem decodeFrom_of_run (whole : Text) {t : Text} {ns : List Int} (h : Run t ns) :
    decodeFrom whole 0 1 t = .ok ns := by
  induction h with
  | nil => simp [decodeFrom]
  | cons h hrest ih =>
    obtain ⟨hdigits, hmore, hlast⟩ := h
    rw [decodeFrom_of_writes whole _ hdigits hmore hlast, ih, Nat.zero_add, Nat.mul_one]
    rfl

/-! ### What is read is written -/

/-- What is read after digits that are pending, all of which say that more follow, is a run together
with the text of these digits. -/
theorem run_of_decodeFrom {whole pending t : Text} {digits : List Nat} {ns : List Int}
    (hdigits : pending.map Base64.digitValue? = digits.map some) (hmore : ∀ d ∈ digits, 32 ≤ d)
    (h : decodeFrom whole (digitsValue digits) (32 ^ digits.length) t = .ok ns) :
    Run (pending ++ t) ns := by
  induction t generalizing pending digits ns with
  | nil =>
    rw [decodeFrom] at h
    split at h
    · rename_i hweight
      have hnil : digits = [] := by
        rw [← List.length_eq_zero_iff]
        exact (Nat.pow_eq_one.1 hweight).resolve_left (by decide)
      subst hnil
      obtain rfl := List.map_eq_nil_iff.1 hdigits
      cases h
      exact .nil
    · cases h
  | cons c rest ih =>
    rw [decodeFrom] at h
    split at h
    · cases h
    · rename_i d hd
      have hpending : (pending ++ [c]).map Base64.digitValue? = (digits ++ [d]).map some := by
        rw [List.map_append, List.map_append, hdigits, List.map_singleton, hd, List.map_singleton]
      simp only [← digitsValue_concat] at h
      split at h
      · rename_i hcontinues
        have hmore' : ∀ e ∈ digits ++ [d], 32 ≤ e := by
          intro e he
          rcases List.mem_append.1 he with he | he
          · exact hmore e he
          · rwa [List.mem_singleton.1 he]
        have hweight : 32 ^ digits.length * 32 = 32 ^ (digits ++ [d]).length := by
          rw [List.length_append, List.length_singleton, Nat.pow_succ]
        rw [hweight] at h
        have hrun := ih hpending hmore' h
        rwa [List.append_assoc, List.singleton_append] at hrun
      · rename_i hends
        obtain ⟨others, hothers, rfl⟩ := map_eq_ok.1 h
        have hrest : Run rest others := @ih [] [] others rfl (by simp) hothers
        have hwrites := Writes.mk hpending hmore (Nat.not_le.1 hends)
        have hrun := Run.cons hwrites hrest
        rwa [List.append_assoc, List.singleton_append] at hrun

/-- A text is read as the numbers of which it is a run. -/
theorem decode_eq_ok {t : Text} {ns : List Int} : decode t = .ok ns ↔ Run t ns :=
  ⟨@run_of_decodeFrom t [] t [] ns rfl (by simp), decodeFrom_of_run t⟩

end Retrace.Vlq

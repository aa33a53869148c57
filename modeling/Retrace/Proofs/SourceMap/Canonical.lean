import Mathlib.Data.List.Forall2
import Mathlib.Data.List.SplitBy
import Retrace.Proofs.SourceMap.Vlq
import Retrace.Proofs.Text.Base64

/-!
# Numbers written canonically

A number can be written in more ways than one: a last digit of zero may stand behind the others, and
zero may have a sign. What is read and written anew is never longer than before, and it is the same
text exactly if no number in it was written in such a way.

* `isEnd`, `parts`: the digits that end a number, and a text cut behind each of them;
* `IsComplete`: the texts in which no number is cut off;
* `IsPadded`, `negativeZero`: the ways of writing a number that the writer does not use;
* `parts_flatten`: the numbers of a text are written in its parts, and in no other.

Main statement: `decode_parts`.
-/

namespace Retrace.Vlq

/-- Whether a character is a digit that ends a number. -/
def isEnd (c : Char) : Bool := (Base64.digitValue? c).any (· < 32)

/-- The texts of the single numbers of a text: it is cut behind each digit that ends one. -/
def parts (t : Text) : List Text := t.splitBy fun c _ => !isEnd c

/-- Whether a text has digits only, and the last of them ends a number. -/
structure IsComplete (t : Text) : Prop where
  digits : ∀ c ∈ t, c ∈ Base64.alphabet
  ends : ∀ c ∈ t.getLast?, isEnd c = true

/-- Whether a number is written with a last digit that adds nothing to the others. -/
def IsPadded (part : Text) : Prop := 2 ≤ part.length ∧ part.getLast? = some 'A'

instance (part : Text) : Decidable (IsPadded part) :=
  inferInstanceAs (Decidable (2 ≤ part.length ∧ part.getLast? = some 'A'))

/-- The text of zero with a sign. -/
def negativeZero : Text := ['B']

/-! ### Which texts are read -/

/-- The rest of a text is read if it has digits only, and the last of the text ends a number. -/
theorem exists_decodeFrom_iff {whole t : Text} {value weight : Nat} :
    (∃ ns, decodeFrom whole value weight t = .ok ns) ↔
      (t = [] → weight = 1) ∧ IsComplete t := by
  induction t generalizing value weight with
  | nil =>
    rw [decodeFrom]
    constructor
    · rintro ⟨ns, h⟩
      split at h
      · exact ⟨fun _ => ‹_›, by simp, by simp⟩
      · cases h
    · rintro ⟨h, -⟩
      exact ⟨[], if_pos (h rfl)⟩
  | cons c rest ih =>
    rw [decodeFrom]
    cases hd : Base64.digitValue? c with
    | none =>
      refine iff_of_false (by rintro ⟨ns, ⟨⟩⟩) ?_
      rintro ⟨-, hdigits, -⟩
      have hsome := Base64.isSome_digitValue?_iff.2 (hdigits c List.mem_cons_self)
      rw [hd] at hsome
      cases hsome
    | some d =>
      have hmem : c ∈ Base64.alphabet := Base64.isSome_digitValue?_iff.1 (by rw [hd]; rfl)
      have hend : isEnd c = decide (d < 32) := by rw [isEnd, hd, Option.any_some]
      have hrest : IsComplete (c :: rest) ↔ (rest = [] → d < 32) ∧ IsComplete rest := by
        cases rest with
        | nil =>
          constructor
          · rintro ⟨-, h⟩
            exact ⟨fun _ => by simpa [hend] using h, by simp, by simp⟩
          · rintro ⟨h, -⟩
            exact ⟨by simpa using hmem, by simpa [hend] using h rfl⟩
        | cons x xs =>
          constructor
          · rintro ⟨hdigits, hlast⟩
            exact ⟨by simp, fun e he => hdigits e (List.mem_cons_of_mem _ he), by simpa using hlast⟩
          · rintro ⟨-, hdigits, hlast⟩
            exact ⟨List.forall_mem_cons.2 ⟨hmem, hdigits⟩, by simpa using hlast⟩
      dsimp only
      rw [hrest]
      split
      · -- a weight that has grown is not that of a first digit
        rw [ih]
        have hweight : weight * 32 ≠ 1 := by omega
        have hd32 : ¬ d < 32 := by omega
        simp [hweight, hd32]
      · have hd32 : d < 32 := by omega
        simp only [map_eq_ok]
        constructor
        · rintro ⟨_, ns, hns, rfl⟩
          exact ⟨by simp, fun _ => hd32, (ih.1 ⟨ns, hns⟩).2⟩
        · rintro ⟨-, -, h⟩
          obtain ⟨ns, hns⟩ := ih.2 ⟨fun _ => rfl, h⟩
          exact ⟨_, ns, hns, rfl⟩

/-- There are as many numbers as digits that end one. -/
theorem length_of_decodeFrom {whole t : Text} {value weight : Nat} {ns : List Int}
    (h : decodeFrom whole value weight t = .ok ns) : ns.length = t.countP isEnd := by
  induction t generalizing value weight ns with
  | nil =>
    rw [decodeFrom] at h
    split at h
    · cases h
      rfl
    · cases h
  | cons c rest ih =>
    rw [decodeFrom] at h
    split at h
    · cases h
    · rename_i d hd
      have hend : isEnd c = decide (d < 32) := by rw [isEnd, hd, Option.any_some]
      dsimp only at h
      split at h
      · rw [List.countP_cons_of_neg (by rw [hend]; simpa using ‹_›)]
        exact ih h
      · obtain ⟨others, hothers, rfl⟩ := map_eq_ok.1 h
        rw [List.countP_cons_of_pos (by rw [hend]; exact decide_eq_true (by omega)),
          List.length_cons, ih hothers]

/-! ### The parts of a text -/

/-- A number is written in digits that do not end one, and one that does. -/
theorem Writes.exists_end {part : Text} {n : Int} (h : Writes part n) :
    ∃ before c, part = before ++ [c] ∧ (∀ e ∈ before, isEnd e = false) ∧ isEnd c = true := by
  obtain @⟨more, last, hdigits, hmore, hlast⟩ := h
  rw [List.map_append, List.map_singleton, List.map_eq_append_iff] at hdigits
  obtain ⟨before, ended, rfl, hbefore, hended⟩ := hdigits
  obtain ⟨c, rfl, hc⟩ := List.map_eq_singleton_iff.1 hended
  refine ⟨before, c, rfl, ?_, ?_⟩
  · intro e he
    obtain ⟨d, hd, hvalue⟩ := List.mem_map.1 (hbefore ▸ List.mem_map_of_mem he)
    rw [isEnd, ← hvalue, Option.any_some, decide_eq_false_iff_not]
    exact Nat.not_lt.2 (hmore d hd)
  · rw [isEnd, hc, Option.any_some]
    exact decide_eq_true hlast

/-- The text of a number is cut off from what follows it, and not cut itself. -/
theorem parts_append {part : Text} {n : Int} (h : Writes part n) (rest : Text) :
    parts (part ++ rest) = part :: parts rest := by
  obtain ⟨before, c, rfl, hbefore, hc⟩ := h.exists_end
  have hlast : ∀ x ∈ (before ++ [c]).getLast?, ∀ y ∈ rest.head?, (!isEnd x) = false := by
    intro x hx y _
    rw [List.getLast?_concat, Option.mem_some_iff] at hx
    rw [← hx, hc, Bool.not_true]
  have hchain : (before ++ [c]).IsChain fun x _ => (!isEnd x) = true := by
    rw [List.isChain_iff_forall_rel_of_append_cons_cons]
    intro x y first second hsplit
    have hbefore_eq := congrArg List.dropLast hsplit
    have hmem : x ∈ before := by
      rw [List.dropLast_concat] at hbefore_eq
      rw [hbefore_eq]
      simp
    rw [hbefore x hmem, Bool.not_false]
  rw [parts, List.splitBy_append hlast, List.splitBy_of_isChain (by simp) hchain,
    List.singleton_append, parts]

/-- Each number of a text is written in its part. -/
theorem Run.forall₂_parts {t : Text} {ns : List Int} (h : Run t ns) :
    List.Forall₂ Writes (parts t) ns := by
  induction h with
  | nil => exact .nil
  | cons h hrest ih =>
    rw [parts_append h]
    exact .cons h ih

theorem writes_encode (n : Int) : Writes (encode n) n := by
  have hrun := decode_eq_ok.1 (decode_flatMap_encode [n])
  rw [List.flatMap_singleton] at hrun
  generalize encode n = text at hrun
  cases hrun with
  | cons h hrest =>
    cases hrest
    rwa [List.append_nil]

theorem parts_flatMap_encode (ns : List Int) : parts (ns.flatMap encode) = ns.map encode := by
  induction ns with
  | nil => rfl
  | cons n rest ih => rw [List.flatMap_cons, parts_append (writes_encode n), ih, List.map_cons]

/-! ### Writing anew -/

theorem toSigned_signed (v : Nat) : toSigned (signed v) = if v = 1 then 0 else v := by
  simp only [toSigned, signed]
  split_ifs <;> omega

/-- What the writer makes of a digit and the number above it. -/
theorem encodeNat_cons {d : Nat} (hmore : 32 ≤ d) (hlt : d < 64) (w : Nat) :
    encodeNat (d % 32 + 32 * w) =
      if w = 0 then [Base64.digit (d % 32)] else Base64.digit d :: encodeNat w := by
  rw [encodeNat]
  split
  · rw [if_pos (by omega)]
    congr 2
    omega
  · rw [if_neg (by omega)]
    congr 2 <;> omega

section Digits

variable {text : Text} {more : List Nat} {last : Nat}

theorem digitsValue_last (h : last < 32) : digitsValue [last] = last := by
  rw [digitsValue, List.map_singleton, Nat.ofDigits_singleton, Nat.mod_eq_of_lt h]

theorem last_eq_zero (hlast : last < 32) (h : digitsValue (more ++ [last]) = 0) : last = 0 := by
  rw [digitsValue_concat, Nat.mod_eq_of_lt hlast] at h
  have hproduct : last * 32 ^ more.length = 0 := (Nat.add_eq_zero_iff.1 h).2
  exact (Nat.mul_eq_zero.1 hproduct).resolve_right (Nat.pow_pos (by decide)).ne'

/-- A number of one digit is written anew as it was. -/
theorem encodeNat_last (hdigits : text.map Base64.digitValue? = [some last]) (hlast : last < 32) :
    encodeNat (digitsValue [last]) = text := by
  obtain ⟨c, rfl, hc⟩ := List.map_eq_singleton_iff.1 hdigits
  rw [digitsValue_last hlast, encodeNat, dif_pos hlast, (Base64.digitValue?_eq_some.1 hc).2]

/-- The digits of a number, written anew, are not more than they were. -/
theorem length_encodeNat_le (hdigits : text.map Base64.digitValue? = (more ++ [last]).map some)
    (hmore : ∀ d ∈ more, 32 ≤ d) (hlast : last < 32) :
    (encodeNat (digitsValue (more ++ [last]))).length ≤ text.length := by
  induction more generalizing text with
  | nil =>
    rw [List.nil_append, encodeNat_last hdigits hlast]
  | cons d more ih =>
    obtain ⟨c, others, rfl, hc, hothers⟩ := List.map_eq_cons_iff.1 hdigits
    obtain ⟨hd, hmore⟩ := List.forall_mem_cons.1 hmore
    rw [List.cons_append, digitsValue_cons, encodeNat_cons hd (Base64.digitValue?_lt hc)]
    split
    · simp
    · exact Nat.succ_le_succ (ih hothers hmore)

/-- The digits of a number are written anew as they were, unless the last of several adds
nothing. -/
theorem encodeNat_eq_iff (hdigits : text.map Base64.digitValue? = (more ++ [last]).map some)
    (hmore : ∀ d ∈ more, 32 ≤ d) (hlast : last < 32) :
    encodeNat (digitsValue (more ++ [last])) = text ↔ (more ≠ [] → last ≠ 0) := by
  induction more generalizing text with
  | nil => exact iff_of_true (encodeNat_last hdigits hlast) nofun
  | cons d more ih =>
    obtain ⟨c, others, rfl, hc, hothers⟩ := List.map_eq_cons_iff.1 hdigits
    obtain ⟨hd, hmore⟩ := List.forall_mem_cons.1 hmore
    rw [List.cons_append, digitsValue_cons, encodeNat_cons hd (Base64.digitValue?_lt hc)]
    split
    · -- the digits above are all zero, so one is left of two or more
      rename_i hzero
      refine iff_of_false ?_ fun h => h (List.cons_ne_nil _ _) (last_eq_zero hlast hzero)
      intro h
      rw [List.cons.injEq] at h
      rw [← h.2] at hothers
      simp at hothers
    · rename_i hnonzero
      rw [(Base64.digitValue?_eq_some.1 hc).2, List.cons.injEq, and_iff_right rfl,
        ih hothers hmore]
      constructor
      · intro h _
        rcases more with _ | ⟨e, more⟩
        · rwa [List.nil_append, digitsValue_last hlast] at hnonzero
        · exact h (List.cons_ne_nil _ _)
      · exact fun h _ => h (List.cons_ne_nil _ _)

/-- A number is padded exactly if the last of several digits is zero. -/
theorem isPadded_iff (hdigits : text.map Base64.digitValue? = (more ++ [last]).map some) :
    IsPadded text ↔ more ≠ [] ∧ last = 0 := by
  rw [List.map_append, List.map_singleton, List.map_eq_append_iff] at hdigits
  obtain ⟨before, ended, rfl, hbefore, hended⟩ := hdigits
  obtain ⟨c, rfl, hc⟩ := List.map_eq_singleton_iff.1 hended
  have hlength : before.length = more.length := by simpa using congrArg List.length hbefore
  have hzero : c = 'A' ↔ last = 0 := by
    constructor
    · rintro rfl
      exact (Option.some.inj hc).symm
    · rintro rfl
      exact (Base64.digitValue?_eq_some.1 hc).2
  rw [IsPadded, List.length_append, List.length_singleton, hlength, List.getLast?_concat,
    Option.some.injEq, hzero, ← List.length_pos_iff]
  exact and_congr_left fun _ => by omega

theorem eq_negativeZero_iff (hdigits : text.map Base64.digitValue? = (more ++ [last]).map some) :
    text = negativeZero ↔ more = [] ∧ last = 1 := by
  constructor
  · rintro rfl
    have hvalues : [1] = more ++ [last] :=
      List.map_injective_iff.2 (Option.some_injective Nat) hdigits
    obtain ⟨hmore, hlast⟩ := List.append_eq_singleton_iff.1 hvalues.symm |>.resolve_right (by simp)
    exact ⟨hmore, List.singleton_inj.1 hlast⟩
  · rintro ⟨rfl, rfl⟩
    obtain ⟨c, rfl, hc⟩ := List.map_eq_singleton_iff.1 hdigits
    rw [(Base64.digitValue?_eq_some.1 hc).2]
    rfl

/-- Digits of which only the sign is set are the sign alone, or end with one that adds nothing. -/
theorem of_digitsValue_eq_one (hlast : last < 32) (h : digitsValue (more ++ [last]) = 1) :
    more = [] ∧ last = 1 ∨ more ≠ [] ∧ last = 0 := by
  rcases more with _ | ⟨d, more⟩
  · rw [List.nil_append, digitsValue_last hlast] at h
    exact .inl ⟨rfl, h⟩
  · rw [List.cons_append, digitsValue_cons] at h
    have hrest : digitsValue (more ++ [last]) = 0 := by omega
    exact .inr ⟨List.cons_ne_nil _ _, last_eq_zero hlast hrest⟩

end Digits

section Part

variable {part : Text} {n : Int}

/-- A number written anew is not longer than it was. -/
theorem Writes.length_encode_le (h : Writes part n) : (encode n).length ≤ part.length := by
  obtain @⟨more, last, hdigits, hmore, hlast⟩ := h
  rw [encode, toSigned_signed]
  split
  · -- zero with a sign has at least the one digit that zero has
    have hlength : part.length = more.length + 1 := by simpa using congrArg List.length hdigits
    have hzero : (encodeNat 0).length = 1 := by
      rw [encodeNat]
      rfl
    omega
  · exact length_encodeNat_le hdigits hmore hlast

/-- A number is written anew as it was, unless it was padded or zero with a sign. -/
theorem Writes.encode_eq_iff (h : Writes part n) :
    encode n = part ↔ ¬ IsPadded part ∧ part ≠ negativeZero := by
  obtain @⟨more, last, hdigits, hmore, hlast⟩ := h
  have hsigned : part ≠ negativeZero ↔ ¬ (more = [] ∧ last = 1) :=
    not_congr (eq_negativeZero_iff hdigits)
  rw [isPadded_iff hdigits, hsigned, encode, toSigned_signed]
  split
  · -- zero is written anew as one digit without a sign
    rename_i hone
    refine iff_of_false ?_ ?_
    · intro hzero
      have hpart : part = ['A'] := by
        rw [← hzero, encodeNat]
        rfl
      subst hpart
      rcases of_digitsValue_eq_one hlast hone with hsign | ⟨hseveral, -⟩
      · exact absurd ((eq_negativeZero_iff hdigits).2 hsign) (by decide)
      · have hlength : more.length = 0 := by simpa using congrArg List.length hdigits
        exact hseveral (List.length_eq_zero_iff.1 hlength)
    · rintro ⟨hpadded, hnegative⟩
      rcases of_digitsValue_eq_one hlast hone with hsign | hempty
      · exact hnegative hsign
      · exact hpadded hempty
  · rename_i hone
    have hnegative : ¬ (more = [] ∧ last = 1) := by
      rintro ⟨rfl, rfl⟩
      exact hone (digitsValue_last hlast)
    rw [encodeNat_eq_iff hdigits hmore hlast, not_and, and_iff_left hnegative]

end Part

/-! ### The whole text -/

/-- What is read, written anew, is not longer than it was. -/
theorem Run.length_encode_le {t : Text} {ns : List Int} (h : Run t ns) :
    (ns.flatMap encode).length ≤ t.length := by
  induction h with
  | nil => exact le_rfl
  | cons h hrest ih =>
    rw [List.flatMap_cons, List.length_append, List.length_append]
    exact Nat.add_le_add h.length_encode_le ih

theorem map_encode_eq_iff {texts : List Text} {ns : List Int} (h : List.Forall₂ Writes texts ns) :
    ns.map encode = texts ↔ ∀ part ∈ texts, ¬ IsPadded part ∧ part ≠ negativeZero := by
  induction h with
  | nil => simp
  | cons hwrites hrest ih =>
    rw [List.map_cons, List.cons.injEq, hwrites.encode_eq_iff, ih, List.forall_mem_cons]

/-- What is read is written anew as it was exactly if each number is. -/
theorem Run.encode_eq_iff {t : Text} {ns : List Int} (h : Run t ns) :
    ns.flatMap encode = t ↔ ∀ part ∈ parts t, ¬ IsPadded part ∧ part ≠ negativeZero := by
  have hparts : ns.flatMap encode = t ↔ ns.map encode = parts t := by
    constructor
    · rintro rfl
      exact (parts_flatMap_encode ns).symm
    · intro hmap
      rw [List.flatMap_def, hmap]
      exact List.flatten_splitBy _ t
  rw [hparts, map_encode_eq_iff h.forall₂_parts]

/-- **Numbers written and read.** A row of integers is read back from its text. A text is read
exactly if it has digits only and is empty or ends with a digit that ends a number; there are as
many numbers in it as digits that end one, each written in its part of the text. Written anew they
are never longer than the text, and they are the text exactly if none of them was padded and none
was zero with a sign. -/
theorem decode_parts :
    (∀ ns, decode (ns.flatMap encode) = .ok ns) ∧
      ∀ t, ((∃ ns, decode t = .ok ns) ↔ IsComplete t) ∧
        ∀ ns, decode t = .ok ns →
          ns.length = t.countP isEnd ∧ List.Forall₂ Writes (parts t) ns ∧
            (ns.flatMap encode).length ≤ t.length ∧
              (ns.flatMap encode = t ↔
                ∀ part ∈ parts t, ¬ IsPadded part ∧ part ≠ negativeZero) := by
  refine ⟨decode_flatMap_encode, fun t => ⟨?_, fun ns h => ?_⟩⟩
  · exact exists_decodeFrom_iff.trans (and_iff_right fun _ => rfl)
  · have hrun := decode_eq_ok.1 h
    exact ⟨length_of_decodeFrom h, hrun.forall₂_parts, hrun.length_encode_le, hrun.encode_eq_iff⟩

/-- Sixteen, one with a last digit that adds nothing, and zero with a sign: written anew they are
shorter. -/
theorem decode_parts_padded :
    decode "gBigAB".toList = .ok [16, 1, 0] ∧
      parts "gBigAB".toList = ["gB".toList, "igA".toList, "B".toList] ∧
        ([16, 1, 0] : List Int).flatMap encode ≠ "gBigAB".toList := by
  have hread : decode "gBigAB".toList = .ok [16, 1, 0] := by cbv
  have hparts : parts "gBigAB".toList = ["gB".toList, "igA".toList, "B".toList] := by cbv
  obtain ⟨-, -, -, hcanonical⟩ := (decode_parts.2 "gBigAB".toList).2 _ hread
  refine ⟨hread, hparts, fun h => ?_⟩
  have hpart := hcanonical.1 h "igA".toList (by rw [hparts]; simp)
  exact hpart.1 (by decide)

end Retrace.Vlq

import Retrace.Frame.Line
import Retrace.Proofs.Text.Ends

/-!
# The grammar of a line of a stack

A line is the word `at` and the parts of a call, with blanks around. It can be written in one way
only: no part of it that ends the blanks in front or behind is blank, the first opening parenthesis
ends the name, and the numbers are found from the end, since no digit is a colon. The reader of
lines accepts what can be written in this way and nothing else.

* `IsDecimalText`: the texts of numbers;
* `FrameLine.Spells`: the three forms of the parts of a line;
* `FrameLine.Written`: a line between its blanks;
* `cutPosition?_eq_some_iff`, `place?_eq_some_iff`: the numbers at the end of a place;
* `FrameLine.read?_eq_some_iff`: the reader goes by the grammar;
* `FrameLine.Written.unique`: a line is written in one way.

Main statement: `RawFrame.ofLine_written`.
-/

namespace Retrace

variable {t before digits file line column lead trail : Text} {c : Char}

/-- Whether a text is a number in decimal digits, of any script. -/
structure IsDecimalText (t : Text) : Prop where
  ne_nil : t ≠ []
  digits : ∀ c ∈ t, isDecimal c = true

instance (t : Text) : Decidable (IsDecimalText t) :=
  decidable_of_iff (t ≠ [] ∧ t.all isDecimal = true)
    ⟨fun h => ⟨h.1, List.all_eq_true.1 h.2⟩, fun h => ⟨h.ne_nil, List.all_eq_true.2 h.digits⟩⟩

/-! ### Numbers at the end -/

theorem isBlank_of_isDecimal (h : isDecimal c = true) : isBlank c = false := by
  obtain ⟨first, hmem, hrange⟩ := List.find?_isSome.1 ((Option.isSome_map ..).symm.trans h)
  -- the digits of a script lie together, and so no blank is among them
  have hgaps : ∀ first ∈ decimalZeros, 0x20 < first ∧ first + 10 ≤ 0x85 ∨
      0xA0 < first ∧ first + 10 ≤ 0x1680 ∨ 0x1680 < first ∧ first + 10 ≤ 0x2000 ∨
        0x3000 < first := by decide
  have hgap := hgaps first hmem
  rw [Bool.and_eq_true, decide_eq_true_eq, decide_eq_true_eq] at hrange
  rw [Bool.eq_false_iff]
  intro hblank
  simp only [isBlank, Bool.or_eq_true, Bool.and_eq_true, decide_eq_true_eq, beq_iff_eq] at hblank
  omega

theorem IsDecimalText.not_mem (h : IsDecimalText t) (hc : isDecimal c = false) : c ∉ t := by
  intro hmem
  rw [h.digits c hmem] at hc
  cases hc

/-- A number is found at the end of a text, behind the last colon. -/
theorem cutPosition?_eq_some_iff :
    cutPosition? t = some (before, digits) ↔
      t = before ++ ':' :: digits ∧ IsDecimalText digits := by
  constructor
  · intro h
    obtain ⟨hsplit, hne, hdigits⟩ := cutPosition?_eq_some h
    exact ⟨hsplit, hne, hdigits⟩
  · rintro ⟨rfl, hdigits⟩
    have hcolon : isDecimal ':' = false := by decide
    have hempty : ¬ digits.isEmpty = true := by simpa using hdigits.ne_nil
    simp only [cutPosition?, Text.takeEndWhile_append_cons hdigits.digits hcolon,
      Text.dropEndWhile_append_cons hdigits.digits hcolon]
    rw [if_neg hempty, if_pos List.getLast?_concat, List.dropLast_concat]

/-- A place is a file and two numbers. -/
theorem place?_eq_some_iff :
    place? t = some (file, line, column) ↔ t = file ++ ':' :: (line ++ ':' :: column) ∧
      file ≠ [] ∧ IsDecimalText line ∧ IsDecimalText column := by
  have happend : file ++ ':' :: (line ++ ':' :: column) =
      (file ++ ':' :: line) ++ ':' :: column := by
    rw [List.append_assoc, List.cons_append]
  rw [happend]
  constructor
  · intro h
    unfold place? at h
    split at h
    · cases h
    · rename_i rest digits hlast
      split at h
      · cases h
      · rename_i front number hbefore
        split at h
        · cases h
        · rename_i hfile
          cases h
          obtain ⟨hrest, hline⟩ := cutPosition?_eq_some_iff.1 hbefore
          obtain ⟨ht, hcolumn⟩ := cutPosition?_eq_some_iff.1 hlast
          exact ⟨by rw [ht, hrest], by simpa using hfile, hline, hcolumn⟩
  · rintro ⟨rfl, hfile, hline, hcolumn⟩
    rw [place?, cutPosition?_eq_some_iff.2 ⟨rfl, hcolumn⟩]
    dsimp only
    rw [cutPosition?_eq_some_iff.2 ⟨rfl, hline⟩]
    dsimp only
    rw [if_neg (by simpa using hfile)]

/-- A place ends in a digit. -/
theorem exists_place_eq_concat (file line : Text) (hcolumn : IsDecimalText column) :
    ∃ before digit, isDecimal digit = true ∧
      file ++ ':' :: (line ++ ':' :: column) = before ++ [digit] := by
  obtain ⟨before, digit, rfl⟩ := (List.eq_nil_or_concat' column).resolve_left hcolumn.ne_nil
  refine ⟨file ++ ':' :: (line ++ ':' :: before), digit, hcolumn.digits _ (by simp), ?_⟩
  simp

/-- There is no parenthesis in a place unless the file has one. -/
theorem paren_not_mem_place (hfile : '(' ∉ file) (hline : IsDecimalText line)
    (hcolumn : IsDecimalText column) : '(' ∉ file ++ ':' :: (line ++ ':' :: column) := by
  have hline' := hline.not_mem (c := '(') (by decide)
  have hcolumn' := hcolumn.not_mem (c := '(') (by decide)
  simp [hfile, hline', hcolumn']

theorem place?_unknownPlace : place? FrameLine.unknownPlace = none := by decide

namespace FrameLine

variable {parts other : FrameLine} {name body content : Text}

/-- What stands behind the word `at` for the parts of a line: a name and that its place is not
known, a name and a place, or a place alone. -/
inductive Spells : FrameLine → Text → Prop
  | placeless {name : Text} (hname : name ≠ []) (hparen : '(' ∉ name) :
      Spells (.placeless name) (name ++ ' ' :: '(' :: (unknownPlace ++ [')']))
  | named {name file line column : Text} (hname : name ≠ []) (hparen : '(' ∉ name)
      (hfile : file ≠ []) (hfeed : '\n' ∉ file) (hline : IsDecimalText line)
      (hcolumn : IsDecimalText column) :
      Spells (.named name file line column)
        (name ++ ' ' :: '(' :: (file ++ ':' :: (line ++ ':' :: column) ++ [')']))
  | nameless {file line column : Text} (hfile : file ≠ []) (hopen : '(' ∉ file)
      (hclose : ')' ∉ file) (hline : IsDecimalText line) (hcolumn : IsDecimalText column) :
      Spells (.nameless file line column) (file ++ ':' :: (line ++ ':' :: column))

/-- Whether a text is a line with given parts, with blanks in front and behind. -/
inductive Written : Text → Text → FrameLine → Text → Prop
  | intro {lead body trail : Text} {parts : FrameLine} (hlead : lead.IsBlank)
      (hbody : parts.Spells body) (htrail : trail.IsBlank) :
      Written (lead ++ ("at ".toList ++ (body ++ trail))) lead parts trail

/-! ### Reading with a name -/

/-- What stands in the parentheses after a name decides what is read. -/
theorem readNamed?_append (hname : name ≠ []) (hparen : '(' ∉ name) (content : Text)
    (htrail : trail.IsBlank) :
    readNamed? (name ++ ' ' :: '(' :: (content ++ ')' :: trail)) =
      if content = unknownPlace then some (.placeless name)
      else (place? content).bind fun place =>
        if '\n' ∈ place.1 then none
        else some (.named name place.1 place.2.1 place.2.2) := by
  have hcut : Text.cutAt? '(' (name ++ ' ' :: '(' :: (content ++ ')' :: trail)) =
      some (name ++ [' '], content ++ ')' :: trail) := by
    refine Text.cutAt?_eq_some.2 ⟨?_, ?_⟩
    · rw [List.append_assoc, List.singleton_append]
    · simp [hparen]
  have htrim : Text.trimEnd (content ++ ')' :: trail) = content ++ [')'] :=
    Text.dropEndWhile_append_cons htrail (by decide)
  have hends : (name ++ [' ']).getLast? = some ' ' ∧ (name ++ [' ']).dropLast ≠ [] ∧
      (content ++ [')']).getLast? = some ')' := by
    rw [List.dropLast_concat]
    exact ⟨List.getLast?_concat, hname, List.getLast?_concat⟩
  rw [readNamed?, hcut]
  dsimp only
  rw [htrim, if_pos hends, List.dropLast_concat, List.dropLast_concat]
  cases place? content <;> rfl

/-- Without an opening parenthesis there is no name. -/
theorem readNamed?_of_not_mem (h : '(' ∉ t) : readNamed? t = none := by
  rw [readNamed?]
  cases hcut : Text.cutAt? '(' t with
  | none => rfl
  | some cut =>
    obtain ⟨rfl, -⟩ := Text.cutAt?_eq_some.1 hcut
    simp at h

/-- What is read with a name has a name and parentheses, which end it but for blanks. -/
theorem exists_of_readNamed? (h : readNamed? t = some parts) :
    ∃ name content trail : Text, name ≠ [] ∧ '(' ∉ name ∧ trail.IsBlank ∧
      t = name ++ ' ' :: '(' :: (content ++ ')' :: trail) := by
  unfold readNamed? at h
  split at h
  · cases h
  · rename_i before after hcut
    obtain ⟨rfl, hparen⟩ := Text.cutAt?_eq_some.1 hcut
    dsimp only at h
    split at h
    · rename_i hends
      obtain ⟨hspace, hname, hclosed⟩ := hends
      obtain ⟨name, rfl⟩ := List.getLast?_eq_some_iff.1 hspace
      obtain ⟨content, hcontent⟩ := List.getLast?_eq_some_iff.1 hclosed
      obtain ⟨trail, htrail, hafter⟩ := Text.exists_trimEnd_append after
      rw [hcontent] at hafter
      refine ⟨name, content, trail, ?_, ?_, htrail, ?_⟩
      · simpa using hname
      · simp only [List.mem_append, not_or] at hparen
        exact hparen.1
      · rw [hafter]
        simp
    · cases h

theorem readNamed?_eq_some_iff :
    readNamed? t = some parts ↔
      ∃ body trail, trail.IsBlank ∧ t = body ++ trail ∧ parts.Spells body ∧ '(' ∈ body := by
  constructor
  · intro h
    obtain ⟨name, content, trail, hname, hparen, htrail, rfl⟩ := exists_of_readNamed? h
    rw [readNamed?_append hname hparen content htrail] at h
    refine ⟨name ++ ' ' :: '(' :: (content ++ [')']), trail, htrail, by simp, ?_, by simp⟩
    split at h
    · rename_i hcontent
      cases h
      subst hcontent
      exact .placeless hname hparen
    · obtain ⟨⟨file, line, column⟩, hplace, hread⟩ := Option.bind_eq_some_iff.1 h
      obtain ⟨rfl, hfile, hline, hcolumn⟩ := place?_eq_some_iff.1 hplace
      dsimp only at hread
      split at hread
      · cases hread
      · rename_i hfeed
        cases hread
        exact .named hname hparen hfile hfeed hline hcolumn
  · rintro ⟨body, trail, htrail, rfl, hbody, hmem⟩
    cases hbody with
    | @placeless name hname hparen =>
      have happend : name ++ ' ' :: '(' :: (unknownPlace ++ [')']) ++ trail =
          name ++ ' ' :: '(' :: (unknownPlace ++ ')' :: trail) := by simp
      rw [happend, readNamed?_append hname hparen _ htrail, if_pos rfl]
    | @named name file line column hname hparen hfile hfeed hline hcolumn =>
      have happend : name ++ ' ' :: '(' :: (file ++ ':' :: (line ++ ':' :: column) ++ [')']) ++
          trail =
            name ++ ' ' :: '(' :: (file ++ ':' :: (line ++ ':' :: column) ++ ')' :: trail) := by
        simp
      have hplace := place?_eq_some_iff.2 ⟨rfl, hfile, hline, hcolumn⟩
      have hunknown : file ++ ':' :: (line ++ ':' :: column) ≠ unknownPlace := by
        intro hunknown
        rw [hunknown, place?_unknownPlace] at hplace
        cases hplace
      rw [happend, readNamed?_append hname hparen _ htrail, if_neg hunknown, hplace,
        Option.bind_some, if_neg hfeed]
    | @nameless file line column hfile hopen hclose hline hcolumn =>
      exact absurd hmem (paren_not_mem_place hopen hline hcolumn)

/-! ### Reading without a name -/

/-- No form ends in a blank. -/
theorem Spells.trimEnd_append (h : parts.Spells body) (htrail : trail.IsBlank) :
    Text.trimEnd (body ++ trail) = body := by
  have hends : ∃ front c, body = front ++ [c] ∧ isBlank c = false := by
    cases h with
    | @placeless name hname hparen =>
      exact ⟨name ++ ' ' :: '(' :: unknownPlace, ')', by simp, by decide⟩
    | @named name file line column hname hparen hfile hfeed hline hcolumn =>
      exact ⟨name ++ ' ' :: '(' :: (file ++ ':' :: (line ++ ':' :: column)), ')', by simp,
        by decide⟩
    | @nameless file line column hfile hopen hclose hline hcolumn =>
      obtain ⟨front, digit, hdigit, hplace⟩ := exists_place_eq_concat file line hcolumn
      exact ⟨front, digit, hplace, isBlank_of_isDecimal hdigit⟩
  obtain ⟨front, c, rfl, hc⟩ := hends
  rw [List.append_assoc, List.singleton_append]
  exact Text.dropEndWhile_append_cons htrail hc

theorem readNameless?_eq_some_iff :
    readNameless? t = some parts ↔
      ∃ body trail, trail.IsBlank ∧ t = body ++ trail ∧ parts.Spells body ∧ '(' ∉ body := by
  constructor
  · intro h
    unfold readNameless? at h
    split at h
    · cases h
    · rename_i file line column hplace
      split at h
      · cases h
      · rename_i hparens
        cases h
        obtain ⟨hopen, hclose⟩ := not_or.1 hparens
        obtain ⟨htrim, hfile, hline, hcolumn⟩ := place?_eq_some_iff.1 hplace
        obtain ⟨trail, htrail, hsplit⟩ := Text.exists_trimEnd_append t
        rw [htrim] at hsplit
        exact ⟨_, trail, htrail, hsplit, .nameless hfile hopen hclose hline hcolumn,
          paren_not_mem_place hopen hline hcolumn⟩
  · rintro ⟨body, trail, htrail, rfl, hbody, hmem⟩
    rw [readNameless?, hbody.trimEnd_append htrail]
    cases hbody with
    | placeless => simp at hmem
    | named => simp at hmem
    | nameless hfile hopen hclose hline hcolumn =>
      rw [place?_eq_some_iff.2 ⟨rfl, hfile, hline, hcolumn⟩]
      dsimp only
      rw [if_neg (not_or.2 ⟨hopen, hclose⟩)]

/-! ### Reading a line -/

/-- The blanks in front of the word are what a line starts with. -/
theorem takeWhile_isBlank_word (hlead : lead.IsBlank) (rest : Text) :
    (lead ++ ("at ".toList ++ rest)).takeWhile isBlank = lead := by
  have hword : ("at ".toList ++ rest).takeWhile isBlank = [] := rfl
  rw [List.takeWhile_append_of_pos hlead, hword, List.append_nil]

theorem trimStart_word (hlead : lead.IsBlank) (rest : Text) :
    (lead ++ ("at ".toList ++ rest)).trimStart = "at ".toList ++ rest := by
  rw [Text.trimStart, List.dropWhile_append_of_pos hlead]
  rfl

/-- The reader of lines goes by the grammar. -/
theorem read?_eq_some_iff :
    read? t = some parts ↔ ∃ lead trail, Written t lead parts trail := by
  constructor
  · intro h
    unfold read? at h
    split at h
    · cases h
    · rename_i rest hrest
      rw [Text.afterPrefix?_eq_some] at hrest
      have hsplit : t.takeWhile isBlank ++ t.trimStart = t := List.takeWhile_append_dropWhile
      rw [hrest] at hsplit
      have hread : ∃ body trail, trail.IsBlank ∧ rest = body ++ trail ∧ parts.Spells body := by
        rcases Option.or_eq_some_iff.1 h with h | ⟨-, h⟩
        · obtain ⟨body, trail, htrail, hrest, hbody, -⟩ := readNamed?_eq_some_iff.1 h
          exact ⟨body, trail, htrail, hrest, hbody⟩
        · obtain ⟨body, trail, htrail, hrest, hbody, -⟩ := readNameless?_eq_some_iff.1 h
          exact ⟨body, trail, htrail, hrest, hbody⟩
      obtain ⟨body, trail, htrail, rfl, hbody⟩ := hread
      rw [← hsplit]
      exact ⟨_, trail, .intro (fun c hc => List.mem_takeWhile_imp hc) hbody htrail⟩
  · rintro ⟨lead, trail, ⟨hlead, hbody, htrail⟩⟩
    rename_i body
    rw [read?, trimStart_word hlead, Text.afterPrefix?_eq_some.2 rfl]
    dsimp only
    by_cases hparen : '(' ∈ body
    · rw [readNamed?_eq_some_iff.2 ⟨body, trail, htrail, rfl, hbody, hparen⟩]
      rfl
    · have hnone : '(' ∉ body ++ trail := by
        rw [List.mem_append, not_or]
        exact ⟨hparen, fun hmem => absurd (htrail _ hmem) (by decide)⟩
      rw [readNamed?_of_not_mem hnone, Option.none_or]
      exact readNameless?_eq_some_iff.2 ⟨body, trail, htrail, rfl, hbody, hparen⟩

/-- A line is written in one way. -/
theorem Written.unique {lead' trail' : Text} (h : Written t lead parts trail)
    (h' : Written t lead' other trail') : lead' = lead ∧ other = parts ∧ trail' = trail := by
  have hparts : other = parts :=
    Option.some.inj ((read?_eq_some_iff.2 ⟨_, _, h'⟩).symm.trans (read?_eq_some_iff.2 ⟨_, _, h⟩))
  obtain ⟨hlead, hbody, htrail⟩ := h
  rename_i body
  generalize hline : lead ++ ("at ".toList ++ (body ++ trail)) = t at h'
  obtain ⟨hlead', hbody', htrail'⟩ := h'
  rename_i body'
  have hleads := congrArg (List.takeWhile isBlank) hline
  rw [takeWhile_isBlank_word hlead, takeWhile_isBlank_word hlead'] at hleads
  subst hleads
  have hrest : body ++ trail = body' ++ trail' :=
    List.append_cancel_left (List.append_cancel_left hline)
  have hbodies := congrArg Text.trimEnd hrest
  rw [hbody.trimEnd_append htrail, hbody'.trimEnd_append htrail'] at hbodies
  subst hbodies
  exact ⟨rfl, hparts, (List.append_cancel_left hrest).symm⟩

end FrameLine

/-- **A line is read by its grammar.** A text can be written as a line in one way at most. If it
can, it comes to what its parts come to, and if it cannot, it is rejected. -/
theorem RawFrame.ofLine_written (t : Text) :
    (∀ lead parts trail lead' parts' trail', FrameLine.Written t lead parts trail →
      FrameLine.Written t lead' parts' trail' →
        lead' = lead ∧ parts' = parts ∧ trail' = trail) ∧
    (∀ lead parts trail, FrameLine.Written t lead parts trail →
      RawFrame.ofLine t = parts.toRawFrame) ∧
    ((∀ lead parts trail, ¬ FrameLine.Written t lead parts trail) →
      RawFrame.ofLine t = .error (.rejected (.notFrameLine t))) := by
  refine ⟨fun _ _ _ _ _ _ h h' => h.unique h', fun lead parts trail h => ?_, fun hnone => ?_⟩
  · rw [ofLine, FrameLine.read?_eq_some_iff.2 ⟨lead, trail, h⟩]
  · cases hread : FrameLine.read? t with
    | none => rw [ofLine, hread]
    | some parts =>
      obtain ⟨lead, trail, h⟩ := FrameLine.read?_eq_some_iff.1 hread
      exact absurd h (hnone lead parts trail)

/-- A line whose file has parentheses and numbers of its own, and whose line number is no digit of
ASCII. -/
def evaluatedLine : Text := "\t at new A (eval (x:1:2) <anonymous>:٣:4) \n".toList

/-- The parts of that line. -/
def evaluatedParts : FrameLine :=
  .named "new A".toList "eval (x:1:2) <anonymous>".toList "٣".toList "4".toList

/-- A line without the space that ends a name, and with parentheses where there is no name. -/
def crampedLine : Text := "at f(x.js:1:2)".toList

/-- The line of the evaluated call is written in one way and read, and the cramped one is written in
none and rejected. -/
theorem RawFrame.ofLine_written_evaluated :
    FrameLine.Written evaluatedLine "\t ".toList evaluatedParts " \n".toList ∧
      (∀ lead parts trail, FrameLine.Written evaluatedLine lead parts trail →
        lead = "\t ".toList ∧ parts = evaluatedParts ∧ trail = " \n".toList) ∧
      RawFrame.ofLine evaluatedLine =
        .ok ⟨"new A".toList, "eval (x:1:2) <anonymous>".toList, some 3, some 4, false⟩ ∧
      (∀ lead parts trail, ¬ FrameLine.Written crampedLine lead parts trail) ∧
      RawFrame.ofLine crampedLine = .error (.rejected (.notFrameLine crampedLine)) := by
  have hbody : evaluatedParts.Spells "new A (eval (x:1:2) <anonymous>:٣:4)".toList :=
    .named (by decide) (by decide) (by decide) (by decide) (by decide) (by decide)
  have hwritten : FrameLine.Written evaluatedLine "\t ".toList evaluatedParts " \n".toList := by
    have hlead : Text.IsBlank "\t ".toList := by decide
    have htrail : Text.IsBlank " \n".toList := by decide
    have hsplit : evaluatedLine = "\t ".toList ++
        ("at ".toList ++ ("new A (eval (x:1:2) <anonymous>:٣:4)".toList ++ " \n".toList)) := by
      decide
    rw [hsplit]
    exact .intro hlead hbody htrail
  have hcramped : ∀ lead parts trail, ¬ FrameLine.Written crampedLine lead parts trail := by
    intro lead parts trail h
    have hnone : FrameLine.read? crampedLine = none := by decide
    rw [FrameLine.read?_eq_some_iff.2 ⟨lead, trail, h⟩] at hnone
    cases hnone
  obtain ⟨hunique, hread, -⟩ := RawFrame.ofLine_written evaluatedLine
  refine ⟨hwritten, fun _ _ _ h => hunique _ _ _ _ _ _ hwritten h, ?_, hcramped,
    (RawFrame.ofLine_written crampedLine).2.2 hcramped⟩
  rw [hread _ _ _ hwritten]
  rfl

end Retrace

import Mathlib.Data.List.Infix
import Retrace.Proofs.SourceMap.Locate
import Retrace.Proofs.Text.Pieces
import Retrace.Resolver.Target

/-!
# Served paths stay in their root

A served path is walked from its root, part by part: `..` leads to the directory above, as far as
there is one, and a name leads into a directory. Where the walk ends is where the path leads, and it
is refused exactly if that is not in the root. Working `..` out in the path before it is put below
the root makes no difference to the walk.

So it is without links. Where paths may be links, a path leads where the disk says, and three laws
of `Path.resolve` are enough to keep it in the root.

* `Path.walk`: the directory that a row of parts leads to;
* `Path.Resolves`: the laws of resolving paths;
* `Path.resolves_resolveFrom`, `Path.resolves_resolveLinked`: they hold without links, and on a disk
  with one link;
* `servedParts`: the parts of a served path;
* `joinUnderBy_eq_walk`: what a served path comes to without links, in terms of the walk;
* `liesUnder_of_ofRawBy`, `liesUnder_of_referencePathBy`: locations and references that are served.

Main statement: `joinUnder_confined`.
-/

namespace Retrace

namespace Path

/-- The directory that a part of a path leads to. Nothing and `.` stay, and `..` leads to the
directory above, if there is one. -/
def walkPart (directory : List Text) (part : Text) : List Text :=
  if part = [] ∨ part = ['.'] then directory
  else if part = ['.', '.'] then directory.dropLast
  else directory ++ [part]

/-- The directory that the parts of a path lead to, one after another. -/
def walk (directory parts : List Text) : List Text := parts.foldl walkPart directory

/-- Whether a path is absolute and lies at or below a directory. -/
def LiesUnder (file directory : Path) : Prop :=
  file.root = .slash ∧ directory.parts <+: file.parts

/-- Whether the names of a path are all names proper. -/
def IsPlain (p : Path) : Prop := ∀ name ∈ p.parts, name ≠ [] ∧ name ≠ ['.'] ∧ name ≠ ['.', '.']

/-! ### Walking -/

theorem pushName_parent {stack : List Text} (h : ['.', '.'] ∉ stack) :
    pushName true stack ['.', '.'] = stack.tail := by
  unfold pushName
  cases stack with
  | nil => rfl
  | cons last before =>
    have hlast : last ≠ ['.', '.'] := by
      intro heq
      simp [heq] at h
    simp [hlast]

/-- To work `..` out among the names first and then put them on a stack comes to the same as to put
the names on the stack as they are. -/
theorem replay_reverse_replay {stack : List Text} (h : ['.', '.'] ∉ stack) (names : List Text) :
    replay true stack (replay false [] names).reverse = replay true stack names := by
  -- by induction on the names from the end, so that the last name meets a stack that is worked out
  induction names using List.reverseRecOn with
  | nil => rfl
  | append_singleton names name ih =>
    have hreplay : ∀ rooted start, replay rooted start (names ++ [name]) =
        pushName rooted (replay rooted start names) name := by
      intro rooted start
      simp [replay]
    have hconcat : ∀ before last, replay true stack (last :: before).reverse =
        pushName true (replay true stack before.reverse) last := by
      intro before last
      simp [replay]
    rw [hreplay, hreplay, ← ih]
    generalize replay false [] names = worked
    by_cases hname : name = ['.', '.']
    · subst hname
      cases worked with
      | nil => rfl
      | cons last before =>
        by_cases hlast : last = ['.', '.']
        · have hkept : pushName false (last :: before) ['.', '.'] =
              ['.', '.'] :: last :: before := by
            simp [pushName, hlast]
          rw [hkept, hconcat]
        · have hdropped : pushName false (last :: before) ['.', '.'] = before := by
            simp [pushName, hlast]
          have hmem : ['.', '.'] ∉ replay true stack before.reverse := replay_absolute h _
          rw [hdropped, hconcat, pushName_parent (pushName_ne_parent hmem last)]
          simp [pushName, hlast]
    · have hpushed : pushName false worked name = name :: worked := by
        simp [pushName, hname]
      rw [hpushed, hconcat]

/-- The names of a path put on a stack are the directory that its parts lead to, from its end. -/
theorem replay_filter_eq_walk {stack : List Text} (h : ['.', '.'] ∉ stack) (parts : List Text) :
    replay true stack (parts.filter fun part => part ≠ [] ∧ part ≠ ['.']) =
      (walk stack.reverse parts).reverse := by
  induction parts generalizing stack with
  | nil => simp [replay, walk]
  | cons part rest ih =>
    have hwalk : walk stack.reverse (part :: rest) = walk (walkPart stack.reverse part) rest := rfl
    rw [hwalk]
    by_cases hskip : part = [] ∨ part = ['.']
    · have hfilter : ((part :: rest).filter fun part => part ≠ [] ∧ part ≠ ['.']) =
          rest.filter fun part => part ≠ [] ∧ part ≠ ['.'] := by
        apply List.filter_cons_of_neg
        simpa [or_iff_not_imp_left] using hskip
      rw [hfilter, ih h, walkPart, if_pos hskip]
    · have hfilter : ((part :: rest).filter fun part => part ≠ [] ∧ part ≠ ['.']) =
          part :: rest.filter fun part => part ≠ [] ∧ part ≠ ['.'] := by
        apply List.filter_cons_of_pos
        simpa [or_iff_not_imp_left] using hskip
      have hpush : (pushName true stack part).reverse = walkPart stack.reverse part := by
        rw [walkPart, if_neg hskip]
        by_cases hpart : part = ['.', '.']
        · subst hpart
          rw [pushName_parent h, if_pos rfl, List.dropLast_reverse]
        · simp [pushName, hpart]
      rw [hfilter, ← hpush]
      exact ih (pushName_ne_parent h part)

/-- A step comes across no name but those of the directory and the part, if it is a name proper. -/
theorem mem_walkPart {directory : List Text} {part name : Text}
    (h : name ∈ walkPart directory part) :
    name ∈ directory ∨ name = part ∧ name ≠ [] ∧ name ≠ ['.'] ∧ name ≠ ['.', '.'] := by
  unfold walkPart at h
  split at h
  · exact .inl h
  · rename_i hskip
    split at h
    · exact .inl (List.mem_of_mem_dropLast h)
    · rename_i hparent
      rcases List.mem_append.1 h with hmem | hlast
      · exact .inl hmem
      · rw [List.mem_singleton.1 hlast]
        exact .inr ⟨rfl, fun hnil => hskip (.inl hnil), fun hdot => hskip (.inr hdot), hparent⟩

/-! ### Resolving -/

/-- What is known of a way of resolving paths, whether or not they are links: where a path leads is
absolute and has none but proper names, and it leads to itself. -/
structure Resolves (resolve : Path → Except LinkFault Path) : Prop where
  root_eq {p q : Path} : resolve p = .ok q → q.root = .slash
  isPlain {p q : Path} : p.IsRead → resolve p = .ok q → q.IsPlain
  resolved {p q : Path} : resolve p = .ok q → resolve q = .ok q

section Lexical

variable {working p q : Path}

theorem not_mem_parts_of_resolveFrom (hworking : working.IsWorking)
    (h : resolveFrom working p = .ok q) : ['.', '.'] ∉ q.parts := by
  rw [(resolveFrom_eq_ok.1 h).2]
  exact not_mem_parts_absoluteFrom hworking p

theorem root_of_resolveFrom (h : resolveFrom working p = .ok q) : q.root = .slash := by
  rw [(resolveFrom_eq_ok.1 h).2]

theorem hasNul_of_resolveFrom (hworking : working.IsWorking)
    (h : resolveFrom working p = .ok q) : q.hasNul = false := by
  obtain ⟨hnul, rfl⟩ := resolveFrom_eq_ok.1 h
  exact hasNul_absoluteFrom hworking.hasNul_eq hnul

/-- Without links paths are resolved from any directory that can be worked in. -/
theorem resolves_resolveFrom (hworking : working.IsWorking) : Resolves (resolveFrom working) where
  root_eq := root_of_resolveFrom
  isPlain := by
    intro p q hp h name hname
    have hparent : name ≠ ['.', '.'] := by
      rintro rfl
      exact not_mem_parts_of_resolveFrom hworking h hname
    rw [(resolveFrom_eq_ok.1 h).2] at hname
    rcases mem_parts_of_mem_absoluteFrom hname with hmem | hmem
    · exact ⟨(hworking.isRead name hmem).1, (hworking.isRead name hmem).2, hparent⟩
    · exact ⟨(hp name hmem).1, (hp name hmem).2, hparent⟩
  resolved := by
    intro p q h
    have hroot : q.root ≠ .none := by simp [root_of_resolveFrom h]
    have habsolute :=
      absoluteFrom_of_not_mem hroot (not_mem_parts_of_resolveFrom hworking h) working
    refine resolveFrom_eq_ok.2 ⟨hasNul_of_resolveFrom hworking h, ?_⟩
    rw [habsolute, ← root_of_resolveFrom h]

end Lexical

/-! ### A disk with one link -/

/-- The directory that a part of a path leads to where the directory `link` is a link. -/
def followPart (link target directory : List Text) (part : Text) : List Text :=
  if walkPart directory part = link then target else walkPart directory part

/-- The file that a path leads to on a disk where the directory `link` is a link to `target`, and
nothing else is one. -/
def resolveLinked (link target : List Text) (p : Path) : Except LinkFault Path :=
  if p.hasNul then .error .nullByte
  else .ok ⟨.slash, p.parts.foldl (followPart link target) []⟩

section Linked

variable {link target directory : List Text}

/-- A link leads to a directory that is not below the link itself. -/
structure IsLink (link target : List Text) : Prop where
  ne_nil : link ≠ []
  not_below : ¬ link <+: target
  isPlain : IsPlain ⟨.slash, target⟩
  hasNul_eq : hasNul ⟨.slash, target⟩ = false

theorem mem_foldl_followPart {parts : List Text} {name : Text}
    (h : name ∈ parts.foldl (followPart link target) directory) :
    name ∈ directory ∨ name ∈ target ∨
      name ∈ parts ∧ name ≠ [] ∧ name ≠ ['.'] ∧ name ≠ ['.', '.'] := by
  induction parts generalizing directory with
  | nil => exact .inl h
  | cons part rest ih =>
    rcases ih h with hstep | htarget | ⟨hrest, hproper⟩
    · unfold followPart at hstep
      split at hstep
      · exact .inr (.inl hstep)
      · rcases mem_walkPart hstep with hmem | ⟨rfl, hproper⟩
        · exact .inl hmem
        · exact .inr (.inr ⟨List.mem_cons_self, hproper⟩)
    · exact .inr (.inl htarget)
    · exact .inr (.inr ⟨List.mem_cons_of_mem _ hrest, hproper⟩)

/-- No step leads to the link or below it. -/
theorem not_below_followPart (hlink : IsLink link target) (h : ¬ link <+: directory)
    (part : Text) : ¬ link <+: followPart link target directory part := by
  unfold followPart
  split
  · exact hlink.not_below
  · rename_i hne
    unfold walkPart at hne ⊢
    split
    · exact h
    · rename_i hskip
      split
      · exact fun hbelow => h (hbelow.trans (List.dropLast_prefix _))
      · rename_i hparent
        rw [if_neg hskip, if_neg hparent] at hne
        intro hbelow
        rcases List.prefix_concat_iff.1 hbelow with heq | hdirectory
        · exact hne heq.symm
        · exact h hdirectory

theorem not_below_foldl_followPart (hlink : IsLink link target) (h : ¬ link <+: directory)
    (parts : List Text) : ¬ link <+: parts.foldl (followPart link target) directory := by
  induction parts generalizing directory with
  | nil => exact h
  | cons part rest ih => exact ih (not_below_followPart hlink h part)

/-- Proper names that do not come by the link lead where they say. -/
theorem foldl_followPart_of_not_below {parts : List Text}
    (hproper : ∀ name ∈ parts, name ≠ [] ∧ name ≠ ['.'] ∧ name ≠ ['.', '.'])
    (h : ¬ link <+: directory ++ parts) :
    parts.foldl (followPart link target) directory = directory ++ parts := by
  induction parts generalizing directory with
  | nil => simp
  | cons name rest ih =>
    obtain ⟨hname, hrest⟩ := List.forall_mem_cons.1 hproper
    have hsplit : directory ++ name :: rest = (directory ++ [name]) ++ rest := by simp
    have hwalk : walkPart directory name = directory ++ [name] := by
      rw [walkPart, if_neg (by simp [hname.1, hname.2.1]), if_neg hname.2.2]
    have hfollow : followPart link target directory name = directory ++ [name] := by
      rw [followPart, hwalk, if_neg]
      rintro rfl
      exact h (hsplit ▸ List.prefix_append _ _)
    rw [List.foldl_cons, hfollow, ih hrest (hsplit ▸ h), hsplit]

/-- The laws hold on a disk with one link. -/
theorem resolves_resolveLinked (hlink : IsLink link target) :
    Resolves (resolveLinked link target) := by
  have hcases : ∀ {p q}, resolveLinked link target p = .ok q →
      p.hasNul = false ∧ q = ⟨.slash, p.parts.foldl (followPart link target) []⟩ := by
    intro p q h
    unfold resolveLinked at h
    split at h
    · cases h
    · rename_i hnul
      cases h
      exact ⟨Bool.eq_false_iff.2 hnul, rfl⟩
  have hplain : ∀ {p q}, resolveLinked link target p = .ok q → q.IsPlain := by
    intro p q h name hname
    rw [(hcases h).2] at hname
    rcases mem_foldl_followPart hname with hnil | htarget | ⟨-, hproper⟩
    · exact absurd hnil List.not_mem_nil
    · exact hlink.isPlain name htarget
    · exact hproper
  refine ⟨fun h => ?_, fun _ h => hplain h, fun {p q} h => ?_⟩
  · rw [(hcases h).2]
  · have hfree : ¬ link <+: [] ++ q.parts := by
      rw [(hcases h).2]
      exact not_below_foldl_followPart hlink (by simpa using hlink.ne_nil) _
    have hnul : q.hasNul = false := by
      rw [Bool.eq_false_iff]
      intro hq
      obtain ⟨name, hname, hmem⟩ := List.any_eq_true.1 hq
      rw [(hcases h).2] at hname
      rcases mem_foldl_followPart hname with hnil | htarget | ⟨hp, -⟩
      · exact absurd hnil List.not_mem_nil
      · exact Bool.eq_false_iff.1 hlink.hasNul_eq (List.any_eq_true.2 ⟨name, htarget, hmem⟩)
      · exact Bool.eq_false_iff.1 (hcases h).1 (List.any_eq_true.2 ⟨name, hp, hmem⟩)
    rw [resolveLinked, if_neg (by simp [hnul]),
      foldl_followPart_of_not_below (hplain h) hfree]
    have hroot : q.root = .slash := by rw [(hcases h).2]
    rw [← hroot, List.nil_append]

end Linked

end Path

/-! ### Served paths -/

/-- The parts of a served path: decoded, without the separators in front, and cut at slashes. -/
def servedParts (urlPath : Text) : List Text :=
  Text.pieces '/' ((Percent.text urlPath).dropWhile fun c => c = '/' ∨ c = '\\')

section Served

variable {urlPath : Text} {root base : Path}

theorem Path.rootOf_eq_none {t : Text} (h : t.head? ≠ some '/') : rootOf t = .none := by
  cases t with
  | nil => rfl
  | cons c rest =>
    have hc : c ≠ '/' := by
      intro heq
      simp [heq] at h
    unfold rootOf
    split <;> simp_all

theorem root_relativeOf (urlPath : Text) : (relativeOf urlPath).root = .none := by
  apply Path.rootOf_eq_none
  intro hslash
  have hnot := List.head?_dropWhile_not (fun c => decide (c = '/' ∨ c = '\\'))
    (Percent.text urlPath)
  rw [hslash] at hnot
  simp at hnot

theorem parts_relativeOf (urlPath : Text) :
    (relativeOf urlPath).parts = (Path.replay false []
      ((servedParts urlPath).filter fun part => part ≠ [] ∧ part ≠ ['.'])).reverse := by
  have hroot := root_relativeOf urlPath
  unfold relativeOf Path.normal at hroot ⊢
  dsimp only at hroot ⊢
  rw [hroot]
  rfl

/-- A path whose decoded text has no NUL is not refused for one. -/
theorem hasNul_relativeOf (h : '\x00' ∉ Percent.text urlPath) :
    (relativeOf urlPath).hasNul = false := by
  rw [Bool.eq_false_iff]
  intro hnul
  obtain ⟨name, hname, hmem⟩ := List.any_eq_true.1 hnul
  rw [parts_relativeOf, List.mem_reverse] at hname
  rcases Path.mem_of_mem_replay hname with hnil | hpart
  · simp at hnil
  · have hpiece := (List.mem_filter.1 hpart).1
    have htext := (Text.mem_of_mem_pieces hpiece (List.contains_iff_mem.1 hmem)).1
    exact h ((List.dropWhile_sublist _).subset htext)

/-- A directory and a served path below it come to the end of the walk. -/
theorem parts_absoluteFrom_join (hroot : base.root = .slash) (hplain : ['.', '.'] ∉ base.parts)
    (working : Path) (urlPath : Text) :
    (Path.absoluteFrom working (base.join (relativeOf urlPath))).parts =
      Path.walk base.parts (servedParts urlPath) := by
  have hmem : ['.', '.'] ∉ base.parts.reverse := by simpa using hplain
  have habsolute : working.join (base.join (relativeOf urlPath)) =
      ⟨.slash, base.parts ++ (relativeOf urlPath).parts⟩ := by
    rw [Path.parts_join_of_relative (root_relativeOf urlPath), hroot]
    rfl
  have happend : Path.replay true [] (base.parts ++ (relativeOf urlPath).parts) =
      Path.replay true (Path.replay true [] base.parts) (relativeOf urlPath).parts := by
    simp [Path.replay]
  rw [Path.absoluteFrom, habsolute]
  show (Path.replay true [] (base.parts ++ (relativeOf urlPath).parts)).reverse = _
  rw [happend, Path.replay_of_not_mem hplain, List.append_nil, parts_relativeOf,
    Path.replay_reverse_replay hmem, Path.replay_filter_eq_walk hmem, List.reverse_reverse,
    List.reverse_reverse]

/-- A served path without a NUL comes to the end of its walk from the root, or is refused if that is
not in the root. -/
theorem joinUnderBy_eq_walk {working : Path} (hworking : working.IsWorking)
    (hbase : Path.resolveFrom working root = .ok base) (h : '\x00' ∉ Percent.text urlPath) :
    (base.parts <+: Path.walk base.parts (servedParts urlPath) →
      joinUnderBy (Path.resolveFrom working) root urlPath =
        .ok ⟨.slash, Path.walk base.parts (servedParts urlPath)⟩) ∧
    (¬ base.parts <+: Path.walk base.parts (servedParts urlPath) →
      joinUnderBy (Path.resolveFrom working) root urlPath = .error (.outside urlPath)) := by
  have hroot := Path.root_of_resolveFrom hbase
  have hplain := Path.not_mem_parts_of_resolveFrom hworking hbase
  have hnul : (base.join (relativeOf urlPath)).hasNul = false := by
    rw [Bool.eq_false_iff, ne_eq, Path.hasNul_join, hasNul_relativeOf h,
      Path.hasNul_of_resolveFrom hworking hbase]
    simp
  have hfull : Path.resolveFrom working (base.join (relativeOf urlPath)) =
      .ok ⟨.slash, Path.walk base.parts (servedParts urlPath)⟩ := by
    rw [Path.resolveFrom_eq_ok, parts_absoluteFrom_join hroot hplain]
    exact ⟨hnul, rfl⟩
  rw [joinUnderBy_of_resolve hbase hfull, Path.isUnder, hroot]
  constructor
  · intro hunder
    simp [hunder]
  · intro hunder
    simp [hunder]

theorem isRead_join_relativeOf (hbase : base.IsPlain) :
    (base.join (relativeOf urlPath)).IsRead := by
  intro name hname
  rcases Path.mem_parts_join hname with hmem | hmem
  · exact ⟨(hbase name hmem).1, (hbase name hmem).2.1⟩
  · rw [parts_relativeOf, List.mem_reverse] at hmem
    rcases Path.mem_of_mem_replay hmem with hnil | hpart
    · simp at hnil
    · simpa using (List.mem_filter.1 hpart).2

/-- What is not refused lies under what the root leads to. -/
theorem liesUnder_of_joinUnderBy {resolve : Path → Except LinkFault Path}
    (hresolve : Path.Resolves resolve) {file : Path}
    (h : joinUnderBy resolve root urlPath = .ok file) :
    ∃ base, resolve root = .ok base ∧ file.LiesUnder base := by
  obtain ⟨base, hbase, hfile, hunder⟩ := joinUnderBy_eq_ok.1 h
  simp only [Path.isUnder, Bool.and_eq_true, List.isPrefixOf_iff_prefix] at hunder
  exact ⟨base, hbase, hresolve.root_eq hfile, hunder.2⟩

/-- What is not refused has none but proper names. -/
theorem isPlain_of_joinUnderBy {resolve : Path → Except LinkFault Path}
    (hresolve : Path.Resolves resolve) {file : Path} (hroot : root.IsRead)
    (h : joinUnderBy resolve root urlPath = .ok file) : file.IsPlain := by
  obtain ⟨base, hbase, hfile, -⟩ := joinUnderBy_eq_ok.1 h
  exact hresolve.isPlain (isRead_join_relativeOf (hresolve.isPlain hroot hbase)) hfile

end Served

/-! ### Locations and references -/

section Resolved

variable {resolve : Path → Except LinkFault Path}

/-- The file of a location of the web is below the root of served files. -/
theorem liesUnder_of_ofRawBy (hresolve : Path.Resolves resolve) {settings : Settings}
    {raw : RawFrame} {url : Url} {target : Target} {file : Path}
    (hurl : Url.split raw.file = .ok url) (hweb : url.isWeb = true)
    (htarget : Target.ofRawBy resolve settings raw = .ok target)
    (hfile : target.file? = some file) :
    ∃ root, settings.publicRootBy resolve = .ok root ∧ file.LiesUnder root := by
  unfold Target.ofRawBy at htarget
  split at htarget
  · cases htarget
    cases hfile
  · rw [Target.ofLocationBy, SourceMap.splitUrl_eq_ok.2 hurl, ok_bind, if_pos hweb, bind_eq_ok]
      at htarget
    obtain ⟨root, hroot, hjoined⟩ := htarget
    have hpublic : settings.publicRootBy resolve = .ok root := mapError_eq_ok.1 hroot
    obtain ⟨working, -, hpublicDir⟩ := bind_eq_ok.1 hpublic
    cases hjoin : joinUnderBy resolve root url.path with
    | ok served =>
      rw [hjoin] at hjoined
      cases hjoined
      cases hfile
      obtain ⟨base, hbase, hunder⟩ := liesUnder_of_joinUnderBy hresolve hjoin
      -- the root was resolved before, so it is its own base
      rw [hresolve.resolved hpublicDir] at hbase
      cases hbase
      exact ⟨root, hpublic, hunder⟩
    | error fault =>
      rw [hjoin] at hjoined
      cases fault with
      | unresolved fault => cases hjoined
      | outside urlPath =>
        cases hjoined
        cases hfile

theorem fileUnderBy_eq_ok {root file : Path} {urlPath : Text} :
    fileUnderBy resolve root urlPath = .ok file ↔ joinUnderBy resolve root urlPath = .ok file :=
  mapError_eq_ok

/-- The file of a reference to the web, or of an absolute path, is below the root that it is served
from. -/
theorem liesUnder_of_referencePathBy (hresolve : Path.Resolves resolve) {reference : Text}
    {bundle root path : Path} {url : Url} (hurl : Url.split reference = .ok url)
    (hserved : url.isWeb = true ∨ url.scheme = [] ∧ (Percent.text url.path).head? = some '/')
    (h : referencePathBy resolve reference bundle (some root) = .ok path) :
    ∃ base, resolve root = .ok base ∧ path.LiesUnder base := by
  have hjoined : ∃ urlPath, joinUnderBy resolve root urlPath = .ok path := by
    unfold referencePathBy at h
    split at h
    · cases h
    · rw [SourceMap.splitUrl_eq_ok.2 hurl, ok_bind] at h
      by_cases hweb : url.isWeb = true
      · rw [if_pos hweb] at h
        exact ⟨_, fileUnderBy_eq_ok.1 h⟩
      · obtain ⟨hscheme, hslash⟩ := hserved.resolve_left hweb
        have hfile : url.scheme ≠ fileScheme := by simp [hscheme, fileScheme]
        rw [if_neg hweb, if_neg hfile, if_neg (by simp [hscheme])] at h
        simp only [hslash, if_true] at h
        exact ⟨_, fileUnderBy_eq_ok.1 h⟩
  obtain ⟨urlPath, hjoin⟩ := hjoined
  exact liesUnder_of_joinUnderBy hresolve hjoin

end Resolved

/-- **Nothing is served from outside the root.** On a disk with links or without, a served path is
refused or comes to a plain path below what its root leads to. So the file of a location of the web,
and that of a reference to the web or to an absolute path where files are served, is below the root
of served files. Without links and without a NUL, a served path is refused exactly if its parts lead
out of the root, and otherwise it comes to where they lead. -/
theorem joinUnder_confined :
    (∀ resolve, Path.Resolves resolve →
      (∀ rootText urlPath file, joinUnderBy resolve (.ofText rootText) urlPath = .ok file →
        ∃ base, resolve (.ofText rootText) = .ok base ∧ file.LiesUnder base ∧ file.IsPlain) ∧
      (∀ (settings : Settings) (raw : RawFrame) (url : Url) (target : Target) (file : Path),
        Url.split raw.file = .ok url → url.isWeb = true →
          Target.ofRawBy resolve settings raw = .ok target → target.file? = some file →
            ∃ root, settings.publicRootBy resolve = .ok root ∧ file.LiesUnder root) ∧
      (∀ (reference : Text) (bundle root path : Path) (url : Url),
        Url.split reference = .ok url →
          (url.isWeb = true ∨ url.scheme = [] ∧ (Percent.text url.path).head? = some '/') →
            referencePathBy resolve reference bundle (some root) = .ok path →
              ∃ base, resolve root = .ok base ∧ path.LiesUnder base)) ∧
    (∀ (working root base : Path) (urlPath : Text), working.IsWorking →
      Path.resolveFrom working root = .ok base → '\x00' ∉ Percent.text urlPath →
        let reached := Path.walk base.parts (servedParts urlPath)
        (joinUnderBy (Path.resolveFrom working) root urlPath = .error (.outside urlPath) ↔
            ¬ base.parts <+: reached) ∧
          (base.parts <+: reached →
            joinUnderBy (Path.resolveFrom working) root urlPath = .ok ⟨.slash, reached⟩)) := by
  refine ⟨fun resolve hresolve => ⟨?_, ?_, ?_⟩, ?_⟩
  · intro rootText urlPath file h
    obtain ⟨base, hbase, hunder⟩ := liesUnder_of_joinUnderBy hresolve h
    exact ⟨base, hbase, hunder, isPlain_of_joinUnderBy hresolve (Path.isRead_ofText rootText) h⟩
  · intro settings raw url target file hurl hweb htarget hfile
    exact liesUnder_of_ofRawBy hresolve hurl hweb htarget hfile
  · intro reference bundle root path url hurl hserved h
    exact liesUnder_of_referencePathBy hresolve hurl hserved h
  · intro working root base urlPath hworking hbase hnul
    obtain ⟨hin, hout⟩ := joinUnderBy_eq_walk hworking hbase hnul
    refine ⟨⟨?_, hout⟩, hin⟩
    intro hrefused hunder
    rw [hin hunder] at hrefused
    cases hrefused

/-- Below the root `/srv/www` on a disk without links: a path that leaves the root and comes back
into it, and one that goes on beside the root in a directory whose name starts the same. On a disk
where `/www` is a link to `/srv/www`: a path below `/www`, which is served from where that leads. -/
theorem joinUnder_confined_beside :
    joinUnder (.ofText "/srv/www".toList) "/..%2Fwww//./a.js".toList =
        .ok ⟨.slash, ["srv".toList, "www".toList, "a.js".toList]⟩ ∧
      joinUnder (.ofText "/srv/www".toList) "/%2e%2e/www2/a.js".toList =
        .error (.outside "/%2e%2e/www2/a.js".toList) ∧
      ∃ base file : Path,
        Path.resolveLinked ["www".toList] ["srv".toList, "www".toList] (.ofText "/www".toList) =
          .ok base ∧
        joinUnderBy (Path.resolveLinked ["www".toList] ["srv".toList, "www".toList])
          (.ofText "/www".toList) "/b.js".toList = .ok file ∧
        base.parts = ["srv".toList, "www".toList] ∧ file.LiesUnder base ∧ file.IsPlain := by
  have hbase : (Path.ofText "/srv/www".toList).resolve =
      .ok ⟨.slash, ["srv".toList, "www".toList]⟩ := by cbv
  have hback : Path.walk ["srv".toList, "www".toList] (servedParts "/..%2Fwww//./a.js".toList) =
      ["srv".toList, "www".toList, "a.js".toList] := by cbv
  have hbeside : Path.walk ["srv".toList, "www".toList] (servedParts "/%2e%2e/www2/a.js".toList) =
      ["srv".toList, "www2".toList, "a.js".toList] := by cbv
  have hback' : Percent.text "/..%2Fwww//./a.js".toList = "/../www//./a.js".toList := by cbv
  have hbeside' : Percent.text "/%2e%2e/www2/a.js".toList = "/../www2/a.js".toList := by cbv
  refine ⟨?_, ?_, ?_⟩
  · have hin := (joinUnder_confined.2 _ _ _ _ Path.isWorking_top hbase (by rw [hback']; decide)).2
    rw [hback] at hin
    exact hin ⟨["a.js".toList], rfl⟩
  · apply (joinUnder_confined.2 _ _ _ _ Path.isWorking_top hbase (by rw [hbeside']; decide)).1.2
    rw [hbeside]
    decide
  · have hlink : Path.IsLink ["www".toList] ["srv".toList, "www".toList] :=
      ⟨by decide, by decide, by simp [Path.IsPlain], by decide⟩
    have hserved : joinUnderBy (Path.resolveLinked ["www".toList] ["srv".toList, "www".toList])
        (.ofText "/www".toList) "/b.js".toList =
          .ok ⟨.slash, ["srv".toList, "www".toList, "b.js".toList]⟩ := by cbv
    obtain ⟨base, hbase, hunder, hplain⟩ :=
      (joinUnder_confined.1 _ (Path.resolves_resolveLinked hlink)).1 _ _ _ hserved
    refine ⟨base, _, hbase, hserved, ?_, hunder, hplain⟩
    have hroot : Path.resolveLinked ["www".toList] ["srv".toList, "www".toList]
        (.ofText "/www".toList) = .ok ⟨.slash, ["srv".toList, "www".toList]⟩ := by cbv
    rw [hroot] at hbase
    cases hbase
    rfl

end Retrace

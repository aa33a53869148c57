import Retrace.Text.Quoted
import Retrace.Url.Host

/-!
# URLs

The parts of a URL that lead to a file: scheme, authority and path, as `urlsplit` finds them.
Control characters and spaces in front do not count, nor do tabs and line ends anywhere. What
follows a question mark or a number sign is left out.

* `Url.split`: the parts of a URL, or why its authority is refused;
* `Url.isWeb`: whether its scheme is one of the web.

Main statements: `schemeOf_eq_none` and `split_plain`, which reads a path without a scheme and
special characters as itself.
-/

namespace Retrace

/-- The parts of a URL that lead to a file. -/
structure Url where
  scheme : Text
  authority : Text
  path : Text
  deriving DecidableEq

/-- Why the authority of a URL is refused. -/
inductive UrlFault
  /-- Brackets that do not enclose the host, all of it. -/
  | misplacedBracket
  /-- An address of a later version that is malformed. -/
  | futureAddress
  /-- A host in brackets that is no address. -/
  | notAddress (host : Text)
  /-- An address of version 4 in brackets. -/
  | bracketedIpv4
  /-- A character that is compatible with one that ends an authority. -/
  | disguisedDelimiter (authority : Text)
  deriving DecidableEq

/-- The wording of a fault. -/
def UrlFault.message : UrlFault → String
  | .misplacedBracket => "Invalid IPv6 URL"
  | .futureAddress => "IPvFuture address is invalid"
  | .notAddress host =>
    String.ofList host.quoted ++ " does not appear to be an IPv4 or IPv6 address"
  | .bracketedIpv4 => "An IPv4 address cannot be in brackets"
  | .disguisedDelimiter authority =>
    "netloc '" ++ String.ofList authority ++
      "' contains invalid characters under NFKC normalization"

namespace Url

/-- The schemes of the web. -/
def webSchemes : List Text := ["http".toList, "https".toList]

/-- Whether a URL is of the web. -/
def isWeb (u : Url) : Bool := webSchemes.contains u.scheme

/-- Whether a character may stand in a scheme. -/
def isSchemeChar (c : Char) : Bool := c.isAlphanum || c == '+' || c == '-' || c == '.'

/-- The scheme of a text, in lower case, and what follows its colon. A scheme starts with a
letter. -/
def schemeOf (t : Text) : Option (Text × Text) :=
  match t.cutAt? ':' with
  | none => none
  | some (name, rest) =>
    if (name.head?.map (·.isAlpha)).getD false && name.all isSchemeChar then
      some (name.map (·.toLower), rest)
    else none

/-- Without a colon there is no scheme. -/
theorem schemeOf_eq_none {t : Text} (h : ':' ∉ t) : schemeOf t = none := by
  cases hcut : t.cutAt? ':' with
  | none => simp [schemeOf, hcut]
  | some cut => exact absurd ((Text.cutAt?_eq_some.1 hcut).1 ▸ by simp) h

/-- The characters outside ASCII that are compatible with a text that has a delimiter of
authorities in it. -/
def disguisedDelimiters : List Nat :=
  [0x2047, 0x2048, 0x2049, 0x2100, 0x2101, 0x2105, 0x2106, 0x2A74, 0xFE13, 0xFE16, 0xFE55, 0xFE56,
    0xFE5F, 0xFE6B, 0xFF03, 0xFF0F, 0xFF1A, 0xFF1F, 0xFF20]

/-- The part of a text before a character; all of it, if the character is not there. -/
def upTo (sep : Char) (t : Text) : Text := ((t.cutAt? sep).map (·.1)).getD t

/-- The part of a text after the last of a character; all of it, if the character is not there. -/
def afterLast (sep : Char) (t : Text) : Text := (t.pieces sep).getLastD t

/-- What is wrong with a host that has to stand in brackets, if anything. -/
def hostFault? (host : Text) : Option UrlFault :=
  if host.head? = some 'v' then if isFutureAddress host then none else some .futureAddress
  else if isIpv4 host then some .bracketedIpv4
  else if isIpv6 host then none
  else some (.notAddress host)

/-- What is wrong with an authority that has brackets, if anything. The host stands after the user;
only a colon may follow its brackets. A user with brackets asks for an address without them. -/
def bracketFault? (authority : Text) : Option UrlFault :=
  let place := afterLast '@' authority
  match place.cutAt? '[' with
  | none => hostFault? (upTo ':' place)
  | some (before, rest) =>
    let (host, after) := (rest.cutAt? ']').getD (rest, [])
    if before.isEmpty && (after.isEmpty || after.head? == some ':') then hostFault? host
    else some .misplacedBracket

/-- What is wrong with an authority, if anything. -/
def authorityFault? (authority : Text) : Option UrlFault :=
  if authority.contains '[' != authority.contains ']' then some .misplacedBracket
  else if authority.contains '[' then bracketFault? authority
  else none

/-- A text without what does not count in a URL. -/
def clean (t : Text) : Text :=
  (t.dropWhile fun c => c.toNat ≤ 0x20).filter fun c => c ≠ '\t' ∧ c ≠ '\n' ∧ c ≠ '\r'

/-- The authority of a text, after two slashes, and what follows it. -/
def authorityOf (t : Text) : Text × Text :=
  match t with
  | '/' :: '/' :: rest =>
    (rest.takeWhile fun c => c ≠ '/' ∧ c ≠ '?' ∧ c ≠ '#',
      rest.dropWhile fun c => c ≠ '/' ∧ c ≠ '?' ∧ c ≠ '#')
  | _ => ([], t)

/-- The parts of a URL. -/
def split (t : Text) : Except UrlFault Url :=
  let (scheme, rest) := (schemeOf (clean t)).getD ([], clean t)
  let (authority, rest) := authorityOf rest
  match authorityFault? authority with
  | some fault => .error fault
  | none =>
    if authority.any fun c => disguisedDelimiters.contains c.toNat then
      .error (.disguisedDelimiter authority)
    else .ok ⟨scheme, authority, upTo '?' (upTo '#' rest)⟩

/-- The part before a character that is not there is all of the text. -/
theorem upTo_of_not_mem {sep : Char} {t : Text} (h : sep ∉ t) : upTo sep t = t := by
  cases hcut : t.cutAt? sep with
  | none => simp [upTo, hcut]
  | some cut => exact absurd ((Text.cutAt?_eq_some.1 hcut).1 ▸ by simp) h

/-- A text in which every character counts is left as it is. -/
theorem clean_of_forall {t : Text} (h : ∀ c ∈ t, 0x20 < c.toNat) : clean t = t := by
  have hdrop : (t.dropWhile fun c => c.toNat ≤ 0x20) = t := by
    cases t with
    | nil => rfl
    | cons c rest => simp [Nat.not_le.2 (h c (by simp))]
  rw [clean, hdrop, List.filter_eq_self]
  intro c hc
  have := h c hc
  simp only [ne_eq, decide_eq_true_eq]
  refine ⟨?_, ?_, ?_⟩ <;> rintro rfl <;> revert this <;> decide

/-- A path without a scheme, an authority and characters of another meaning is read as itself. -/
theorem split_plain {t : Text} (h : ∀ c ∈ t, 0x20 < c.toNat)
    (hcolon : ':' ∉ t) (hquery : '?' ∉ t) (hmark : '#' ∉ t)
    (hslash : ∀ rest, t ≠ '/' :: '/' :: rest) : split t = .ok ⟨[], [], t⟩ := by
  have hauthority : authorityOf t = ([], t) := by
    rw [authorityOf]
    exact hslash
  simp [split, clean_of_forall h, schemeOf_eq_none hcolon, hauthority, authorityFault?,
    upTo_of_not_mem hmark, upTo_of_not_mem hquery]

end Url

end Retrace

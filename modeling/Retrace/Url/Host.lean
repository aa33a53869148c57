import Retrace.Text.Percent

/-!
# Hosts in brackets

The check that `urlsplit` makes of a host in brackets. Between brackets an authority names its host
by an address of Internet Protocol version 6, or by an address of a version yet to come. An address
of version 4 needs no brackets and may not stand in them.
-/

namespace Retrace

/-- The number of a part of a version 4 address, up to 255 without a leading zero. -/
def isByteNumeral (t : Text) : Bool :=
  !t.isEmpty && t.length ≤ 3 && t.all (fun c => 48 ≤ c.toNat && c.toNat ≤ 57)
    && (t.length == 1 || t.head? != some '0')
    && t.foldl (fun n c => 10 * n + (c.toNat - 48)) 0 ≤ 255

/-- Whether a text is an address of version 4: four numbers with points between them. -/
def isIpv4 (t : Text) : Bool :=
  let parts := t.pieces '.'
  parts.length == 4 && parts.all isByteNumeral

/-- Whether a text is a part of an address of version 6: up to four hexadecimal digits. -/
def isHextet (t : Text) : Bool :=
  !t.isEmpty && t.length ≤ 4 && t.all fun c => (hexValue? c).isSome

/-- The parts on one side of an omission. An omission at the end of an address has a single empty
part on that side, which does not count. -/
def besideOmission (parts : List Text) : List Text := if parts = [[]] then [] else parts

/-- Whether parts with an omission at `place` make an address: fewer than eight of them in all. -/
def isAbridged (parts : List Text) (place : Nat) : Bool :=
  let high := besideOmission (parts.take place)
  let low := besideOmission (parts.drop (place + 1))
  high.all isHextet && low.all isHextet && high.length + low.length < 8

/-- The places of the empty parts that are neither first nor last. -/
def omissions (parts : List Text) : List Nat :=
  (List.range (parts.length - 1)).filter fun i => i ≠ 0 ∧ parts[i]? = some []

/-- Whether a text without a zone is an address of version 6: eight parts, or fewer around one
omission; the last two may be written as an address of version 4. -/
def isIpv6Address (t : Text) : Bool :=
  let parts := t.pieces ':'
  let last := parts.getLastD []
  let short := 3 ≤ parts.length
  let mapped := last.contains '.'
  let parts := if mapped then parts.dropLast ++ [['0'], ['0']] else parts
  short && (!mapped || isIpv4 last) && parts.length ≤ 9 &&
    match omissions parts with
    | [] => parts.length == 8 && parts.all isHextet
    | [place] => isAbridged parts place
    | _ => false

/-- Whether a text is an address of version 6, with a zone after a percent sign or without. -/
def isIpv6 (t : Text) : Bool :=
  match Text.cutAt? '%' t with
  | none => isIpv6Address t
  | some (address, zone) => !zone.isEmpty && !zone.contains '%' && isIpv6Address address

/-- Whether a text is an address of a later version: `v`, a hexadecimal version, a point and
something after it. -/
def isFutureAddress : Text → Bool
  | 'v' :: rest =>
    match Text.cutAt? '.' rest with
    | none => false
    | some (version, address) =>
      !version.isEmpty && version.all (fun c => (hexValue? c).isSome) && !address.isEmpty
  | _ => false

end Retrace

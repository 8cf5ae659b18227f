import QueryAudit.Text.Cut
import QueryAudit.Text.Numeral

/-!
# Internet addresses

Whether a text is an internet address of version 4 or 6, or of a version yet to come. Addresses in
brackets are checked when a connection URI is cut into its parts.
-/

namespace QueryAudit.Connection

/-- A hexadecimal digit. -/
def isHexDigit (c : Char) : Bool :=
  Text.isDigit c || decide ('a' ≤ c ∧ c ≤ 'f') || decide ('A' ≤ c ∧ c ≤ 'F')

/-- A number from 0 to 255 without leading zeros. -/
def isOctet (s : List Char) : Bool :=
  !s.isEmpty && s.all Text.isDigit && decide (s.length ≤ 3) &&
    (s == ['0'] || s.head? != some '0') && decide (Text.digitsValue s ≤ 255)

/-- Four octets between dots. -/
def isVersion4 (s : List Char) : Bool :=
  let octets := Text.cutAll '.' s
  octets.length == 4 && octets.all isOctet

/-- A group of one to four hexadecimal digits. -/
def isGroup (s : List Char) : Bool :=
  !s.isEmpty && s.all isHexDigit && decide (s.length ≤ 4)

/-- The groups of an address; an address of version 4 at the end stands for two groups. -/
def groups? (parts : List (List Char)) : Option (List (List Char)) :=
  match parts.getLast? with
  | some last =>
    if last.contains '.' then
      if isVersion4 last then some (parts.dropLast ++ [['0'], ['0']]) else none
    else some parts
  | none => none

/-- Whether the groups make an address: eight of them, or fewer with one gap, which is an empty
group. A gap at an end is two empty groups. -/
def fillAddress (groups : List (List Char)) : Bool :=
  let inner := (groups.drop 1).dropLast
  let gap := inner.findIdx List.isEmpty
  if (inner.filter List.isEmpty).length = 0 then groups.length == 8 && groups.all isGroup
  else
    let before := groups.take (gap + 1)
    let after := groups.drop (gap + 2)
    let before := if before == [[]] then [] else before
    let after := if after == [[]] then [] else after
    (inner.filter List.isEmpty).length == 1 && decide (before.length + after.length < 8) &&
      before.all isGroup && after.all isGroup

/-- Whether a text is an address of version 6, which may name a zone after a percent sign. -/
def isVersion6 (s : List Char) : Bool :=
  let (address, zone) := Text.cutFirst '%' s
  let parts := Text.cutAll ':' address
  zone.all (fun zone => !zone.isEmpty && !zone.contains '%') && decide (3 ≤ parts.length) &&
    (groups? parts).any fun groups => decide (groups.length ≤ 9) && fillAddress groups

/-- Whether a text that starts with `v` is an address of a later version: hexadecimal digits, a dot
and more. -/
def isLaterVersion (s : List Char) : Bool :=
  match Text.cutFirst '.' (s.drop 1) with
  | (version, some rest) => !version.isEmpty && version.all isHexDigit && !rest.isEmpty
  | (_, none) => false

end QueryAudit.Connection

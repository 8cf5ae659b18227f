import QueryAudit.Text.Printable
import QueryAudit.Text.Surrogate

/-!
# Texts quoted for display

An error message that cites a text shows it between quotes, with the characters that cannot be
shown written as escapes. Single quotes are used unless the text holds one and holds no double
quote.
-/

namespace QueryAudit.Text

/-- The lower-case hexadecimal numeral of `n`, filled with zeros to the given width. -/
def hexNumeral (width n : Nat) : List Char :=
  let digits := Nat.toDigits 16 n
  List.replicate (width - digits.length) '0' ++ digits

/-- One character of a displayed text between the given quotes. -/
def displayChar (quote c : Char) : List Char :=
  if c = quote ∨ c = '\\' then ['\\', c]
  else if c = '\t' then ['\\', 't']
  else if c = '\n' then ['\\', 'n']
  else if c = '\r' then ['\\', 'r']
  else if isPrintable c then [c]
  else if codePoint c ≤ 0xFF then ['\\', 'x'] ++ hexNumeral 2 (codePoint c)
  else if codePoint c ≤ 0xFFFF then ['\\', 'u'] ++ hexNumeral 4 (codePoint c)
  else ['\\', 'U'] ++ hexNumeral 8 (codePoint c)

/-- A text as an error message cites it. -/
def display (s : List Char) : String :=
  let quote := if s.contains '\'' && !s.contains '"' then '"' else '\''
  String.ofList (quote :: s.flatMap (displayChar quote) ++ [quote])

/-- One octet of displayed octets between the given quotes. -/
def displayOctet (quote : Char) (octet : Nat) : List Char :=
  let c := Char.ofNat octet
  if 0x20 ≤ octet ∧ octet < 0x7F ∨ c = '\t' ∨ c = '\n' ∨ c = '\r' then displayChar quote c
  else ['\\', 'x'] ++ hexNumeral 2 octet

/-- Octets as an error message cites them. Those of ASCII are shown as characters. -/
def displayOctets (octets : List Nat) : String :=
  let has := fun (c : Char) => octets.contains c.toNat
  let quote := if has '\'' && !has '"' then '"' else '\''
  String.ofList ('b' :: quote :: octets.flatMap (displayOctet quote) ++ [quote])

end QueryAudit.Text

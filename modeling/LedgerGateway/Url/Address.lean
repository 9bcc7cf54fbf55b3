import LedgerGateway.Hex.Digit
import LedgerGateway.Text.Parts

/-!
# Addresses in URLs

A host may be given by its address. An address of version 4 is four numbers with points between
them; one of version 6 is eight groups of hexadecimal digits with colons between them, where two
colons stand for groups of zeros, and the last two groups may be an address of version 4.
-/

namespace LedgerGateway.Url.Address

/-! ## Version 4 -/

/-- The decimal number of a text of digits. -/
def number (s : List Char) : Nat := s.foldl (fun n c => n * 10 + (c.toNat - 48)) 0

/-- Whether a text is a number of an address: up to three digits, no zero in front, at most 255. -/
def isOctet (s : List Char) : Bool :=
  !s.isEmpty && s.all Char.isDigit && s.length ≤ 3 && (s = ['0'] || s.head? ≠ some '0')
    && number s ≤ 255

/-- Whether a text has parts of some sort with points between them, as many as an address has. -/
def hasFourParts (isPart : List Char → Bool) (s : List Char) : Bool :=
  let parts := Text.partsBetween (· = '.') s
  parts.length = 4 && parts.all isPart

/-- Whether a text is an address of version 4. -/
def isVersion4 (s : List Char) : Bool := hasFourParts isOctet s

/-- Whether a text has the form of an address of version 4, whether it is one or not. -/
def looksLikeVersion4 (s : List Char) : Bool :=
  hasFourParts (fun part => !part.isEmpty && part.all Char.isDigit) s

/-! ## Version 6 -/

/-- The number of groups. -/
def groupCount : Nat := 8

/-- Whether a text is a group of digits. -/
def isGroup (s : List Char) : Bool := !s.isEmpty && s.length ≤ 4 && s.all Hex.isDigit

/-- The parts of a text between colons, where an address of version 4 at the end counts for two
groups; nothing if it is none. -/
def groups? (s : List Char) : Option (List (List Char)) :=
  let parts := Text.partsBetween (· = ':') s
  let last := parts.getLast?.getD []
  if parts.length < 3 then none
  else if last.contains '.' then
    if isVersion4 last then some (parts.dropLast ++ [['0'], ['0']]) else none
  else some parts

/-- Whether groups on one side of two colons fit: all of them are groups, but for an empty one at
the end of the address, which then has to be alone. -/
def isSide (side : List (List Char)) : Bool := side = [[]] || side.all isGroup

/-- How many groups there are on one side of two colons. -/
def sideCount (side : List (List Char)) : Nat := if side = [[]] then 0 else side.length

/-- The sides of two colons among groups: what stands in front of the first empty group that is at
no end, and behind it. -/
def sides? (groups : List (List Char)) : Option (List (List Char) × List (List Char)) :=
  match groups with
  | [] => none
  | first :: rest =>
    let front := rest.dropLast.takeWhile fun g => !g.isEmpty
    if front.length < rest.dropLast.length then
      some (first :: front, rest.drop (front.length + 1))
    else none

/-- Whether groups are those of an address. -/
def areGroups (groups : List (List Char)) : Bool :=
  groups.length ≤ groupCount + 1
    && match sides? groups with
      | some (front, behind) =>
        isSide front && isSide behind && sideCount front + sideCount behind < groupCount
      | none => groups.length = groupCount && groups.all isGroup

/-- Whether a text is an address of version 6. Behind a percent sign it may name a zone. -/
def isVersion6 (s : List Char) : Bool :=
  let address := s.takeWhile (· ≠ '%')
  let zone := s.drop (address.length + 1)
  let zoneFits := address.length = s.length || (!zone.isEmpty && !zone.contains '%')
  zoneFits && (groups? address).any areGroups

end LedgerGateway.Url.Address

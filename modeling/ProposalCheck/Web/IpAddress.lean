import ProposalCheck.Text.CodeTable

/-!
# Numeric addresses of hosts

An address of version four is four numbers below 256 with points between them. One of version six is
eight groups of up to four hexadecimal digits with colons between them; one run of zero groups may be
left out, and the last two groups may be written as an address of version four. A zone may follow a
percent sign.

## Main definitions

* `isIpv4`, `isIpv6`: is a text such an address?
* `hasZone`: does an address of version six name a zone?
-/

namespace ProposalCheck

/-- A number below 256 without zeros in front. -/
def isOctet (digits : List Char) : Bool :=
  !digits.isEmpty && digits.length ≤ 3 && digits.all Char.isDigit
    && (digits = ['0'] || digits.head? ≠ some '0')
    && digits.foldl (fun value c => 10 * value + (c.toNat - '0'.toNat)) 0 ≤ 255

/-- Is a text an address of version four? -/
def isIpv4 (text : List Char) : Bool :=
  let octets := splitWhere (· = '.') text
  octets.length = 4 && octets.all isOctet

/-- A group of an address of version six. -/
def isGroup (digits : List Char) : Bool :=
  !digits.isEmpty && digits.length ≤ 4 && digits.all fun c => (hexDigit? c).isSome

/-- The parts of an address between colons. An address of version four at the end counts as two
groups; `none` if what looks like one is not. -/
def ipv6Parts (address : List Char) : Option (List (List Char)) :=
  let parts := splitWhere (· = ':') address
  match parts.getLast? with
  | none => some parts
  | some last =>
    if !last.contains '.' then some parts
    else if isIpv4 last then some (parts.dropLast ++ [['0'], ['0']]) else none

/-- Are these the parts of an address without an omission? -/
def isFullAddress (parts : List (List Char)) : Bool := parts.length = 8 && parts.all isGroup

/-- Are these the parts before and after an omission? A part that is empty stands for the omission
reaching that end, and is then the only one there. -/
def isAbridgedAddress (before after : List (List Char)) : Bool :=
  let groups := fun (parts : List (List Char)) => if parts = [[]] then [] else parts
  (groups before).all isGroup && (groups after).all isGroup
    && (groups before).length + (groups after).length ≤ 7

/-- Is a text an address of version six without a zone? -/
def isIpv6Address (address : List Char) : Bool :=
  match ipv6Parts address with
  | none => false
  | some parts =>
    3 ≤ parts.length && parts.length ≤ 9 &&
      match (parts.drop 1).dropLast.findIdx? (·.isEmpty) with
      | none => isFullAddress parts
      | some index => isAbridgedAddress (parts.take (index + 1)) (parts.drop (index + 2))

/-- Does an address of version six name a zone? -/
def hasZone (text : List Char) : Bool := text.contains '%'

/-- Is a text an address of version six, perhaps with a zone? -/
def isIpv6 (text : List Char) : Bool :=
  let zone := (text.dropWhile (· ≠ '%')).drop 1
  isIpv6Address (text.takeWhile (· ≠ '%')) && (!hasZone text || (!zone.isEmpty && !zone.contains '%'))
    && !text.contains '/'

end ProposalCheck

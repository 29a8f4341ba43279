import ProposalCheck.Pattern.Parse
import ProposalCheck.Schema.Dialect
import ProposalCheck.Text.Blank
import ProposalCheck.Text.Word
import ProposalCheck.Web.HostLabel
import ProposalCheck.Web.IpAddress

/-!
# Formats of texts

A schema may name the format of a text. Only some formats are checked; the others accept every text.

## Main definitions

* `isCalendarDate`, `isClockTime`, `isUuid`: texts in a format
* `Dialect.isInFormat`: is a text in the format that a schema names?
-/

namespace ProposalCheck

/-- The number of days of a month. -/
def daysOfMonth (year month : Nat) : Nat :=
  if month = 2 then
    if year % 4 = 0 ∧ (year % 100 ≠ 0 ∨ year % 400 = 0) then 29 else 28
  else if month = 4 ∨ month = 6 ∨ month = 9 ∨ month = 11 then 30
  else 31

/-- Is a text a date such as `2024-02-29`? There is no year zero. -/
def isCalendarDate (text : List Char) : Bool :=
  match splitWhere (· = '-') text with
  | [year, month, day] =>
    year.length = 4 && month.length = 2 && day.length = 2
      && (year ++ month ++ day).all Char.isDigit
      && match decimalNat? year, decimalNat? month, decimalNat? day with
        | some year, some month, some day =>
          decide (1 ≤ year ∧ 1 ≤ month ∧ month ≤ 12 ∧ 1 ≤ day ∧ day ≤ daysOfMonth year month)
        | _, _, _ => false
  | _ => false

/-- Is this a number of one or two digits below a bound? The first of two digits is an ASCII digit. -/
def isClockNumber (bound : Nat) (digits : List Char) : Bool :=
  1 ≤ digits.length && digits.length ≤ 2
    && (digits.length = 1 || digits.head?.all Char.isDigit)
    && (decimalNat? digits).any (· < bound)

/-- Is a text a time of day such as `23:59:59`? -/
def isClockTime (text : List Char) : Bool :=
  match splitWhere (· = ':') text with
  | [hours, minutes, seconds] =>
    isClockNumber 24 hours && isClockNumber 60 minutes && isClockNumber 60 seconds
  | _ => false

/-- Is a text a unique identifier: 32 hexadecimal digits with hyphens after the 8th, the 12th, the 16th
and the 20th, and perhaps elsewhere and with braces at its ends? -/
def isUuid (text : List Char) : Bool :=
  let isBrace (c : Char) : Bool := c = '\x7b' || c = '\x7d'
  let digits := (((text.dropWhile isBrace).reverse.dropWhile isBrace).reverse).filter (· ≠ '-')
  digits.length = 32 && digits.all (fun c => (hexDigit? c).isSome)
    && [8, 13, 18, 23].all fun place => text[place]? = some '-'

namespace Dialect

/-- Is a text in the format that a schema of an edition names? -/
def isInFormat (dialect : Dialect) (format text : String) : Except SchemaFault Bool :=
  let chars := text.toList
  match format with
  | "email" | "idn-email" => .ok (chars.contains '@')
  | "ipv4" => .ok (dialect = .draft3 || isIpv4 chars)
  | "ip-address" => .ok (dialect ≠ .draft3 || isIpv4 chars)
  | "ipv6" => .ok (isIpv6 chars && !hasZone chars)
  | "idn-hostname" => .ok (dialect.rank < 3 || (hostToAscii chars).isOk)
  | "date" => .ok (dialect = .draft4 || dialect = .draft6 || isCalendarDate chars)
  | "time" => .ok (dialect ≠ .draft3 || isClockTime chars)
  | "uuid" => .ok (dialect.rank < 4 || isUuid chars)
  | "regex" => match Pattern.parse {} text with
    | .ok _ => .ok true
    | .error .malformed => .ok false
    | .error .roundsTooLarge => .error .patternOverflow
  | _ => .ok true

end Dialect

end ProposalCheck

import ProposalCheck.Text.Printable
import ProposalCheck.Json.Decode

/-!
# Quoted text in messages

Texts are shown between single quotes, or between double quotes if they hold a single quote and no
double one. Backslashes, the quote in use and characters without a visible form are escaped.

## Main definitions

* `quoted`: a text in quotes
-/

namespace ProposalCheck

/-- The low `width` hexadecimal digits of `n`, in lower case. -/
def hexDigits (width n : Nat) : List Char :=
  let digits := Nat.toDigits 16 n
  List.replicate (width - digits.length) '0' ++ digits

/-- How one character is written between the quotes `quote`. -/
def quotedChar (quote c : Char) : List Char :=
  match Json.surrogateOfStandIn? c with
  | some half => '\\' :: 'u' :: hexDigits 4 half
  | none =>
    if c = quote ∨ c = '\\' then ['\\', c]
    else if c = '\n' then ['\\', 'n']
    else if c = '\r' then ['\\', 'r']
    else if c = '\t' then ['\\', 't']
    else if isPrintable c then [c]
    else if c.toNat ≤ 0xFF then '\\' :: 'x' :: hexDigits 2 c.toNat
    else if c.toNat ≤ 0xFFFF then '\\' :: 'u' :: hexDigits 4 c.toNat
    else '\\' :: 'U' :: hexDigits 8 c.toNat

/-- A text in quotes. -/
def quoted (text : String) : String :=
  let cs := text.toList
  let quote := if '\'' ∈ cs ∧ '"' ∉ cs then '"' else '\''
  String.ofList (quote :: (cs.flatMap (quotedChar quote) ++ [quote]))

end ProposalCheck

import ProposalCheck.Text.CodeTable
import ProposalCheck.Text.Quoted

/-!
# Percent coding

A character that may not stand in an address is written as `%` and two hexadecimal digits for each of
its bytes. What is already written so is kept.

## Main definitions

* `percentByte`: a byte in that form
* `percentEncode`: a text in which only some characters may stand
-/

namespace ProposalCheck

/-- A byte as `%` and two digits. -/
def percentByte (b : Nat) : List Char := '%' :: (hexDigits 2 b).map Char.toUpper

/-- A character byte by byte. -/
def percentChar (c : Char) : List Char :=
  (String.singleton c).toUTF8.toList.flatMap (percentByte ·.toNat)

/-- Writes what may not stand in an address in bytes. A `%` with two digits after it is kept. -/
def percentEncode (isKept : Char → Bool) : List Char → List Char
  | [] => []
  | '%' :: a :: b :: rest =>
    if (hexDigit? a).isSome && (hexDigit? b).isSome then '%' :: a :: b :: percentEncode isKept rest
    else (if isKept '%' then ['%'] else percentChar '%') ++ percentEncode isKept (a :: b :: rest)
  | c :: rest => (if isKept c then [c] else percentChar c) ++ percentEncode isKept rest

end ProposalCheck

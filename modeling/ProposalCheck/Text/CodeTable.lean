/-!
# Tables keyed by code points

Properties of characters are given as tables of runs of code points. A table is an array of entries
sorted by the first code point of their run; a lookup finds the last entry that starts at or before
a code point by bisection.

Tables are written as text, one blank between entries, with code points in hexadecimal, and read
once when the program starts.

## Main definitions

* `CodeTable.last?`: the last entry that starts at or before a code point
* `CodeRanges`: a set of code points, written `41-5a 5f`
* `CodeShifts`: a map on code points that moves runs of them by a constant, written `41-5a/1-61`
-/

namespace ProposalCheck

/-- Entries sorted by the code point at which they start. -/
abbrev CodeTable (α : Type) := Array (Nat × α)

namespace CodeTable

variable {α : Type}

/-- The last entry of `table` with an index in `[low, high)` that starts at or before `code`. -/
def lastIn? (table : CodeTable α) (code low high : Nat) : Option (Nat × α) :=
  if low < high then
    let middle := (low + high) / 2
    match table[middle]? with
    | none => none
    | some entry =>
      if entry.1 ≤ code then (table.lastIn? code (middle + 1) high).or (some entry)
      else table.lastIn? code low middle
  else none
termination_by high - low

/-- The last entry that starts at or before `code`. -/
def last? (table : CodeTable α) (code : Nat) : Option (Nat × α) :=
  table.lastIn? code 0 table.size

end CodeTable

/-- The value of a hexadecimal digit in either case. -/
def hexDigit? (c : Char) : Option Nat :=
  if '0' ≤ c ∧ c ≤ '9' then some (c.toNat - '0'.toNat)
  else if 'a' ≤ c ∧ c ≤ 'f' then some (c.toNat - 'a'.toNat + 10)
  else if 'A' ≤ c ∧ c ≤ 'F' then some (c.toNat - 'A'.toNat + 10)
  else none

/-- The value of a run of hexadecimal digits; other characters count as nothing. -/
def hexValue (digits : List Char) : Nat :=
  digits.foldl (fun value c => value * 16 + (hexDigit? c).getD 0) 0

/-- Splits `text` at every character that satisfies `p`, dropping that character. -/
def splitWhere (p : Char → Bool) : List Char → List (List Char)
  | [] => [[]]
  | c :: rest =>
    if p c then [] :: splitWhere p rest
    else match splitWhere p rest with
      | [] => [[c]]
      | first :: others => (c :: first) :: others

/-- There is at least one piece. -/
theorem splitWhere_ne_nil (p : Char → Bool) (text : List Char) : splitWhere p text ≠ [] := by
  cases text with
  | nil => exact List.cons_ne_nil _ _
  | cons c rest =>
    rw [splitWhere]
    split
    · exact List.cons_ne_nil _ _
    · split <;> exact List.cons_ne_nil _ _

/-- The nonempty pieces of `text` between blanks and line ends. -/
def tableWords (text : String) : List (List Char) :=
  (splitWhere (fun c => c = ' ' || c = '\n') text.toList).filter (· ≠ [])

/-- A set of code points as ascending disjoint runs: the first and the last of each run. -/
structure CodeRanges where
  runs : CodeTable Nat

namespace CodeRanges

/-- Reads runs such as `41-5a 5f`. -/
def ofText (text : String) : CodeRanges where
  runs := (tableWords text).toArray.map fun word =>
    match splitWhere (· = '-') word with
    | [first, last] => (hexValue first, hexValue last)
    | other => (hexValue other.flatten, hexValue other.flatten)

/-- Is `code` in one of the runs? -/
def contains (set : CodeRanges) (code : Nat) : Bool :=
  match set.runs.last? code with
  | some (_, last) => code ≤ last
  | none => false

end CodeRanges

/-- How a run of code points moves: its last member, the distance between its members, and the
image of its first member. -/
structure CodeShift where
  last : Nat
  step : Nat
  image : Nat

/-- A map on code points that moves runs of them by a constant and fixes all others. -/
structure CodeShifts where
  runs : CodeTable CodeShift

namespace CodeShifts

/-- Reads runs such as `41-5a/1-61`: first, last, step and image of the first. -/
def ofText (text : String) : CodeShifts where
  runs := (tableWords text).toArray.map fun word =>
    match (splitWhere (fun c => c = '-' || c = '/') word).map hexValue with
    | [first, last, step, image] => (first, ⟨last, step, image⟩)
    | _ => (0, ⟨0, 1, 0⟩)

/-- The image of `code`. -/
def apply (shifts : CodeShifts) (code : Nat) : Nat :=
  match shifts.runs.last? code with
  | some (first, run) =>
    if code ≤ run.last ∧ (code - first) % run.step = 0 then run.image + (code - first) else code
  | none => code

/-- The code points other than fixed ones that move to `target`. -/
def preimage (shifts : CodeShifts) (target : Nat) : List Nat :=
  shifts.runs.toList.filterMap fun (first, run) =>
    let source := first + (target - run.image)
    if run.image ≤ target ∧ source ≤ run.last ∧ (source - first) % run.step = 0
    then some source else none

end CodeShifts

end ProposalCheck

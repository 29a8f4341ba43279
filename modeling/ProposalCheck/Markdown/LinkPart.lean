import ProposalCheck.Markdown.Destination
import ProposalCheck.Markdown.Entity
import ProposalCheck.Text.LowerCase

/-!
# The parts of a link

After its text, a link has a destination and may have a title. A destination stands between `<` and
`>`, or else ends at a blank, a control character or an unmatched `)`. A title stands between quotes
or parentheses. Links also refer to definitions by a label, in which neither case nor the length of a
blank counts.

All scans are over characters `place` to `stop` of a text.

## Main definitions

* `destinationAt?`: the destination at a place
* `titleAt`: the title at a place
* `normalizeLabel`: the form in which labels are compared
-/

namespace ProposalCheck.Markdown

/-- Is a character a space or a tab? -/
def isGap (c : Char) : Bool := c = ' ' || c = '\t'

/-- The text between two places. -/
def sliceOf (text : Array Char) (start stop : Nat) : List Char := (text.extract start stop).toList

/-- The first place from `place` on whose character does not meet `p`, at most `place + fuel`. -/
def skipWhile (p : Char → Bool) (text : Array Char) (place : Nat) : Nat → Nat
  | 0 => place
  | fuel + 1 => match text[place]? with
    | some c => if p c then skipWhile p text (place + 1) fuel else place
    | none => place

/-- The place of the `>` that closes a destination. -/
def closingAngle? (text : Array Char) (stop : Nat) : Nat → Nat → Option Nat
  | 0, _ => none
  | fuel + 1, place =>
    if place ≥ stop then none
    else match text[place]? with
      | none => none
      | some '\n' | some '<' => none
      | some '>' => some place
      | some '\\' => closingAngle? text stop fuel (if place + 1 < stop then place + 2 else place + 1)
      | some _ => closingAngle? text stop fuel (place + 1)

/-- The end of a destination without brackets. `depth` counts the open parentheses, of which there
may be 32. -/
def bareEnd? (text : Array Char) (stop : Nat) : Nat → Nat → Nat → Option Nat
  | 0, depth, place => if depth = 0 then some place else none
  | fuel + 1, depth, place =>
    let done := if depth = 0 then some place else none
    if place ≥ stop then done
    else match text[place]? with
      | none => done
      | some '\\' =>
        if place + 1 < stop then
          if text[place + 1]? = some ' ' then done else bareEnd? text stop fuel depth (place + 2)
        else bareEnd? text stop fuel depth (place + 1)
      | some '(' => if depth ≥ 32 then none else bareEnd? text stop fuel (depth + 1) (place + 1)
      | some ')' => if depth = 0 then done else bareEnd? text stop fuel (depth - 1) (place + 1)
      | some c =>
        if c.toNat ≤ 0x20 || c.toNat = 0x7F then done
        else bareEnd? text stop fuel depth (place + 1)

/-- The destination at a place, with its escapes resolved, and the place after it. -/
def destinationAt? (text : Array Char) (place stop : Nat) : Option (String × Nat) :=
  let unescaped := fun (first last : Nat) => String.ofList (unescape (sliceOf text first last))
  if text[place]? = some '<' then
    (closingAngle? text stop (stop - place) (place + 1)).map fun last =>
      (unescaped (place + 1) last, last + 1)
  else
    match bareEnd? text stop (stop - place) 0 place with
    | some last => if last = place then none else some (unescaped place last, last)
    | none => none

/-- What a scan for a title finds. -/
inductive TitleScan where
  | absent
  /-- A title that ends before `stop`. -/
  | found (isEmpty : Bool) (stop : Nat)
  /-- The text ends within a title. -/
  | unfinished (closing : Char)
  deriving DecidableEq, Repr

/-- Scans for the end of a title of which `start` is the first place. -/
def titleEnd (text : Array Char) (start stop : Nat) (closing : Char) (isEmpty : Bool) :
    Nat → Nat → TitleScan
  | 0, _ => .unfinished closing
  | fuel + 1, place =>
    if place ≥ stop then .unfinished closing
    else match text[place]? with
      | none => .unfinished closing
      | some c =>
        if c = closing then .found (isEmpty && place = start) (place + 1)
        else if c = '(' && closing = ')' then .absent
        else
          let place := if c = '\\' && place + 1 < stop then place + 2 else place + 1
          titleEnd text start stop closing isEmpty fuel place

/-- The title at a place. -/
def titleAt (text : Array Char) (place stop : Nat) : TitleScan :=
  if place ≥ stop then .absent
  else match text[place]? with
    | some c =>
      if c = '"' || c = '\'' || c = '(' then
        titleEnd text (place + 1) stop (if c = '(' then ')' else c) true (stop - place) (place + 1)
      else .absent
    | none => .absent

/-- Replaces each run of blanks by one space. -/
def collapseBlanks : List Char → List Char
  | [] => []
  | c :: rest =>
    if isBlank c then
      match rest with
      | [] => [' ']
      | d :: _ => if isBlank d then collapseBlanks rest else ' ' :: collapseBlanks rest
    else c :: collapseBlanks rest

/-- The form in which labels are compared: blanks collapsed, in upper case. -/
def normalizeLabel (label : List Char) : String :=
  upperCase (String.ofList (lowerCase (collapseBlanks (trimChars label))))

end ProposalCheck.Markdown

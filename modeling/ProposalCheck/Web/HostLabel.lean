import ProposalCheck.Text.Blank
import ProposalCheck.Text.Composition
import ProposalCheck.Text.Direction
import ProposalCheck.Text.Punycode
import ProposalCheck.Web.LabelCharacter

/-!
# Labels of host names

A host name is made of labels with dots between them. A label in letters of any script has a form in
ASCII, which starts with `xn--`; both forms follow the same rules, checked on the letters.

## Main definitions

* `LabelProblem`: why a text is no label
* `checkLabel`: the rules for a label
* `labelToAscii`, `labelToText`: the two forms of a label
* `hostToAscii`, `hostToText`: the two forms of a host name
-/

namespace ProposalCheck

/-- Why a text is no label of a host name. -/
inductive LabelProblem where
  /-- It is empty, too long, not in composed form, or has hyphens, marks or joiners where none may
  be. -/
  | malformed
  /-- It holds a character that no label may hold. -/
  | character (c : Char)
  /-- It holds a character that may not stand where it stands. -/
  | context (c : Char)
  /-- It mixes directions of writing. -/
  | direction
  deriving DecidableEq, Repr

/-- The longest host name, in characters, dots included. -/
def maximumHostLength : Nat := 253

/-- The longest label, in characters of its ASCII form. -/
def maximumLabelLength : Nat := 63

/-- Does the nearest character that is not passed over join as required? -/
def joinsNext (joinings : List Joining) : List Char → Bool
  | [] => false
  | c :: rest => match joiningOf? c with
    | some .transparent => joinsNext joinings rest
    | some joining => joinings.contains joining
    | none => false

/-- The combining class of signs that silence a vowel. -/
def silencingClass : Nat := 9

/-- May a joiner stand after `before` (nearest first)? -/
def followsSilencing (before : List Char) : Bool :=
  match before with
  | [] => false
  | c :: _ => combiningClass c.toNat = silencingClass

/-- May a character stand between others? `before` holds the nearest first; `none` if the character
is not one that depends on its neighbours. -/
def fitsContext? (before : List Char) (c : Char) (after : List Char) : Option Bool :=
  let label := before ++ after
  match c.toNat with
  -- the joiners, after a sign that silences a vowel or between letters that join
  | 0x200C => some (followsSilencing before
      || (joinsNext [.left, .dual] before && joinsNext [.right, .dual] after))
  | 0x200D => some (followsSilencing before)
  -- the middle dot of Catalan
  | 0xB7 => some (before.head? = some 'l' && after.head? = some 'l')
  -- the numeral sign of Greek, and the marks of Hebrew
  | 0x375 => some ((after.head?.map Script.greek.contains).getD false)
  | 0x5F3 | 0x5F4 => some ((before.head?.map Script.hebrew.contains).getD false)
  -- the middle dot of Katakana
  | 0x30FB => some <| label.any fun other => other ≠ c &&
      (Script.hiragana.contains other || Script.katakana.contains other || Script.han.contains other)
  | code =>
    -- the two kinds of Arabic digits are not mixed
    if 0x660 ≤ code ∧ code ≤ 0x669 then
      some (!label.any fun other => 0x6F0 ≤ other.toNat && other.toNat ≤ 0x6F9)
    else if 0x6F0 ≤ code ∧ code ≤ 0x6F9 then
      some (!label.any fun other => 0x660 ≤ other.toNat && other.toNat ≤ 0x669)
    else none

/-- Is a character one that makes its neighbours join or keeps them apart? -/
def isJoiner (c : Char) : Bool := c = '\u200c' || c = '\u200d'

/-- Checks the characters of a label; `before` holds those already passed, in reverse. -/
def checkCharacters (before : List Char) : List Char → Except LabelProblem Unit
  | [] => .ok ()
  | c :: rest =>
    if labelRanges.contains c.toNat then checkCharacters (c :: before) rest
    else match fitsContext? before c rest with
      | some true => checkCharacters (c :: before) rest
      | some false => .error (if isJoiner c then .malformed else .context c)
      | none => .error (.character c)

/-- What may be at the end of a label, marks aside. -/
def endings (isRightToLeft : Bool) : List Direction :=
  if isRightToLeft then [.rightToLeft, .arabicLetter, .europeanNumber, .arabicNumber]
  else [.leftToRight, .europeanNumber]

/-- What may be in a label at all. -/
def members (isRightToLeft : Bool) : List Direction :=
  (if isRightToLeft then [.rightToLeft, .arabicLetter, .arabicNumber] else [.leftToRight])
    ++ [.europeanNumber, .numberSign, .numberSeparator, .numberTerminator, .neutral, .boundary, .mark]

/-- Is the direction of a label clear? Only labels with letters written from right to left, or with
numerals of such a script, need to show it. -/
def hasClearDirection (label : List Char) : Bool :=
  match label.mapM fun c => directionOf? c.toNat with
  | none => false
  | some directions =>
    if !directions.any ([.rightToLeft, .arabicLetter, .arabicNumber].contains ·) then true
    else match directions with
      | [] => true
      | first :: _ =>
        let isRightToLeft := first = .rightToLeft || first = .arabicLetter
        let last := (directions.reverse.dropWhile (· = .mark)).head?
        (isRightToLeft || first = .leftToRight)
          && directions.all ((members isRightToLeft).contains ·)
          && (last.map ((endings isRightToLeft).contains ·)).getD false
          && !(isRightToLeft && directions.contains .arabicNumber
            && directions.contains .europeanNumber)

/-- The rules for a label. -/
def checkLabel (label : List Char) : Except LabelProblem Unit :=
  let isMalformed := label.isEmpty || label.length > maximumHostLength + 1 || !isComposed label
    || (label.drop 2).take 2 = ['-', '-'] || label.head? = some '-' || label.getLast? = some '-'
    || (label.head?.map fun c => combiningMarkRanges.contains c.toNat).getD false
  if isMalformed then .error .malformed
  else do
    checkCharacters [] label
    if hasClearDirection label then return () else throw .direction

/-- What the ASCII form of a label with other characters starts with. -/
def asciiMark : List Char := "xn--".toList

/-- The letters of a label that is given in ASCII. -/
def asciiLabelToText (label : List Char) : Except LabelProblem (List Char) :=
  let label := label.map Char.toLower
  match dropStart? asciiMark label with
  | none => (checkLabel label).map fun _ => label
  | some form =>
    if form.isEmpty || form.getLast? = some '-' then .error .malformed
    else match Punycode.decode? form with
      | none => .error .malformed
      | some text => (checkLabel text).map fun _ => text

/-- The letters of a label. -/
def labelToText (label : List Char) : Except LabelProblem (List Char) :=
  if label.length > 1024 then .error .malformed
  else if label.all (·.toNat < 128) then asciiLabelToText label
  else (checkLabel label).map fun _ => label

/-- The ASCII form of a label. -/
def labelToAscii (label : List Char) : Except LabelProblem (List Char) := do
  let form ←
    if label.length > 1024 then throw .malformed
    else if label.all (·.toNat < 128) then
      let _ ← asciiLabelToText label
      pure label
    else
      checkLabel label
      pure (asciiMark ++ Punycode.encode label)
  if form.length > maximumLabelLength then throw .malformed
  return form

/-- Is a character one of the dots between labels? -/
def isLabelDot (c : Char) : Bool := ['.', '\u3002', '\uff0e', '\uff61'].contains c

/-- The labels of a host name in another form, with dots between them; a dot at the end stays. -/
def mapLabels (form : List Char → Except LabelProblem (List Char)) (host : List Char) :
    Except LabelProblem (List Char) := do
  let labels := splitWhere isLabelDot host
  if host.length > maximumHostLength + 1 || labels = [[]] then throw .malformed
  let endsInDot := labels.getLast? = some []
  let forms ← (if endsInDot then labels.dropLast else labels).mapM form
  if forms.contains [] then throw .malformed
  return ['.'].intercalate (if endsInDot then forms ++ [[]] else forms)

/-- The ASCII form of a host name. -/
def hostToAscii (host : List Char) : Except LabelProblem (List Char) := do
  let form ← mapLabels labelToAscii host
  let limit := if form.getLast? = some '.' then maximumHostLength + 1 else maximumHostLength
  if form.length > limit then throw .malformed
  return form

/-- The letters of a host name. -/
def hostToText (host : List Char) : Except LabelProblem (List Char) := mapLabels labelToText host

end ProposalCheck

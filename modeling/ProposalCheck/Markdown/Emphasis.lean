import ProposalCheck.Markdown.Tree

/-!
# Emphasis

Stars and underscores in a text are first read as single characters. Afterwards runs of them are
paired: each closing mark looks back for the nearest opening mark of its kind that it may pair with.
Two pairs side by side are strong emphasis, a single one is plain emphasis, and a mark without a
partner remains text.

## Main definitions

* `Token`: a piece of text, or the start or end of an emphasized part
* `Delimiter`: a mark that may open or close a part
* `pairDelimiters`: the marks with the partner of each opening one
* `nestTokens`: the trees that tokens describe
-/

namespace ProposalCheck.Markdown

/-- A piece of text, or the start or end of an emphasized part. -/
inductive Token where
  | whole (tree : Tree)
  | opening (kind : Kind) (markup : String)
  | closing
  deriving Repr

/-- A text as a token. -/
def Token.text (content : String) : Token := .whole (.leaf { kind := .text, content })

/-- The content of a text token. -/
def Token.text? : Token → Option String
  | .whole (.node { kind := .text, content, .. } _) => some content
  | _ => none

/-- A mark within a run of equal marks: the length of the run, the place of the mark among the tokens,
the mark that closes it, and whether it may open or close a part. -/
structure Delimiter where
  marker : Char
  runLength : Nat
  token : Nat
  partner : Option Nat := none
  mayOpen : Bool
  mayClose : Bool
  deriving DecidableEq, Repr

/-- Marks that can both open and close do not pair if the lengths of their runs add up to a multiple
of three, unless both lengths are multiples of three. -/
def Delimiter.mayPair (opener closer : Delimiter) : Bool :=
  !((opener.mayClose || closer.mayOpen) && (opener.runLength + closer.runLength) % 3 = 0
    && (opener.runLength % 3 ≠ 0 || closer.runLength % 3 ≠ 0))

/-- The state of pairing: the marks, how far a search may jump back from each mark that has been
passed, lower bounds for searches that have failed before, and the start of the current run with the
token that would continue it. Bounds are one more than the mark at which they stand. -/
structure Pairing where
  marks : Array Delimiter
  jumps : Array Nat := #[]
  bounds : List ((Char × Bool × Nat) × Nat) := []
  runStart : Nat := 0
  nextToken : Option Nat := none

namespace Pairing

/-- The bound for marks of the kind of `closer`. -/
def boundKey (closer : Delimiter) : Char × Bool × Nat :=
  (closer.marker, closer.mayOpen, closer.runLength % 3)

/-- Searches backwards for a partner. `above` is one more than the mark to try, and the search ends
at `bound`. -/
def opener? (pairing : Pairing) (closer : Delimiter) (bound : Nat) : Nat → Nat → Option Nat
  | 0, _ => none
  | fuel + 1, above =>
    if above ≤ bound then none
    else match pairing.marks[above - 1]? with
      | none => none
      | some opener =>
        if opener.marker = closer.marker && opener.mayOpen && opener.partner.isNone
            && opener.mayPair closer then some (above - 1)
        else
          pairing.opener? closer bound fuel (above - 1 - (pairing.jumps[above - 1]?).getD 0)

/-- Pairs an opening mark with a closing one. A search that meets a mark that cannot open in front of
the opening one may jump over it, too. -/
def join (pairing : Pairing) (openerIndex closerIndex : Nat) : Pairing :=
  let jump :=
    if 0 < openerIndex && !((pairing.marks[openerIndex - 1]?).any (·.mayOpen)) then
      (pairing.jumps[openerIndex - 1]?).getD 0 + 1
    else 0
  { pairing with
    marks := (pairing.marks.modify closerIndex fun mark => { mark with mayOpen := false }).modify
      openerIndex fun mark => { mark with partner := some closerIndex, mayClose := false }
    jumps := (pairing.jumps.setIfInBounds closerIndex (closerIndex - openerIndex + jump)).setIfInBounds
      openerIndex jump
    nextToken := none }

/-- Passes one mark and looks for its partner. -/
def step (pairing : Pairing) (index : Nat) : Pairing :=
  match pairing.marks[index]? with
  | none => pairing
  | some closer =>
    -- a mark continues the run if it is the same mark and no other token stands in between
    let continues := pairing.nextToken = some closer.token
      && (pairing.marks[pairing.runStart]?).any (·.marker = closer.marker)
    let runStart := if continues then pairing.runStart else index
    let pairing :=
      { pairing with
        jumps := pairing.jumps.push 0
        runStart
        nextToken := some (closer.token + 1) }
    if closer.mayClose then
      let bound := (pairing.bounds.lookup (boundKey closer)).getD 0
      let above := runStart - (pairing.jumps[runStart]?).getD 0
      match pairing.opener? closer bound (index + 1) above with
      | some openerIndex => pairing.join openerIndex index
      | none =>
        -- a search that has failed need not be made again for marks of this kind
        if above = 0 then pairing
        else { pairing with bounds := (boundKey closer, above) :: pairing.bounds }
    else pairing

end Pairing

/-- The marks with the partner of each opening one. -/
def pairDelimiters (marks : Array Delimiter) : Array Delimiter :=
  ((List.range marks.size).foldl Pairing.step { marks }).marks

/-- Does the pair that `mark` opens lie right inside of the pair of the mark before it, so that both
are one strong emphasis? -/
def isStrong (marks : Array Delimiter) (index : Nat) (mark : Delimiter) (partner : Nat) : Bool :=
  0 < index && match marks[index - 1]?, marks[partner]?, marks[partner + 1]? with
    | some before, some last, some after =>
      before.partner = some (partner + 1) && before.marker = mark.marker
        && before.token + 1 = mark.token && after.token = last.token + 1
    | _, _, _ => false

/-- Turns the tokens of paired marks into starts and ends of parts, from the last mark to the first.
The first argument is how many marks are left. -/
def applyPairs (marks : Array Delimiter) : Nat → Array Token → Array Token
  | 0, tokens => tokens
  | index + 1, tokens =>
    match marks[index]? with
    | none => applyPairs marks index tokens
    | some mark =>
      match mark.partner with
      | none => applyPairs marks index tokens
      | some partner =>
        let lastToken := ((marks[partner]?).map (·.token)).getD 0
        if isStrong marks index mark partner then
          -- the inner marks become the part, and the outer ones become nothing
          let markup := String.ofList [mark.marker, mark.marker]
          let tokens := tokens.setIfInBounds mark.token (.opening .strong markup)
          let tokens := tokens.setIfInBounds lastToken .closing
          let tokens := tokens.setIfInBounds (mark.token - 1) (.text "")
          let tokens := tokens.setIfInBounds (lastToken + 1) (.text "")
          match index with
          | 0 => tokens
          | index + 1 => applyPairs marks index tokens
        else
          let tokens := tokens.setIfInBounds mark.token
            (.opening .emphasis (String.singleton mark.marker))
          applyPairs marks index (tokens.setIfInBounds lastToken .closing)

/-- Joins neighbouring texts. -/
def joinTexts : List Token → List Token
  | [] => []
  | token :: rest =>
    match token.text?, joinTexts rest with
    | some a, next :: others =>
      match next.text? with
      | some b => .text (a ++ b) :: others
      | none => token :: next :: others
    | _, joined => token :: joined

/-- Adds a token in front of some trees. The trees after the ends that have not met their start stand
further down. -/
def nestToken (token : Token) (stack : List (List Tree)) : List (List Tree) :=
  match token, stack with
  | .whole tree, top :: rest => (tree :: top) :: rest
  | .closing, stack => [] :: stack
  | .opening kind markup, top :: next :: rest => (.node { kind, markup } top :: next) :: rest
  | _, stack => stack

/-- The trees that tokens describe. -/
def nestTokens (tokens : List Token) : List Tree :=
  ((tokens.foldr nestToken [[]]).head?).getD []

/-- The trees that tokens with marks among them describe. -/
def emphasize (tokens : Array Token) (marks : Array Delimiter) : List Tree :=
  nestTokens (joinTexts (applyPairs (pairDelimiters marks) marks.size tokens).toList)

end ProposalCheck.Markdown

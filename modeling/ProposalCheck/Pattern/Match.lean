import ProposalCheck.Pattern.Basic
import ProposalCheck.Source.Lines

/-!
# Matching patterns

A pattern is matched at a place by trying its choices in order; the first way that lets the rest
succeed wins. The rest is a function from a place and the captured groups, so a pattern that can
match in several ways hands each of them to the rest until one is accepted.

A round of a repetition beyond the required ones starts only where the one before it did not start,
so a body that matches nothing is tried once and the loop ends. That bounds the rounds by the number
of characters left, which is the fuel of the loops.

## Main definitions

* `Pattern.matchAt`: all ways to match at a place, up to the first that the rest accepts
* `Pattern.find?`: the leftmost match in a text
* `Pattern.findAll`: the matches in a text, one after the other
-/

namespace ProposalCheck

/-- What the groups of a pattern have captured. -/
abbrev Captures := List (Nat × Span)

namespace Captures

/-- The latest capture of a group. -/
def get? (captures : Captures) (index : Nat) : Option Span :=
  match captures with
  | [] => none
  | (found, span) :: rest => if found = index then some span else get? rest index

end Captures

/-- A piece of text that a pattern matched, in characters. -/
structure Match where
  span : Span
  captures : Captures
  deriving DecidableEq, Repr

namespace Pattern

/-- What is to follow a pattern: whether it accepts a place and the captures. -/
abbrev Rest := Nat → Captures → Option (Nat × Captures)

/-- A pattern's matches at a place, handed one by one to what follows. -/
abbrev Matcher := Rest → Rest

section

variable (text : Array Char)

/-- Is the character before or after a place a word character? -/
def isWordAt (ascii : Bool) (place : Nat) : Bool :=
  (text[place]?.map (CharKind.word.contains ascii)).getD false

/-- Does a condition hold at a place? -/
def anchorHolds (place : Nat) : Anchor → Bool
  | .textStart => place = 0
  | .textEnd => place = text.size
  | .lineStart => place = 0 || text[place - 1]? = some '\n'
  | .lineEnd => place = text.size || text[place]? = some '\n'
  | .lastLineEnd => place = text.size || (place + 1 = text.size && text[place]? = some '\n')
  | .wordEdge ascii negated =>
    if text.isEmpty then false
    else ((0 < place && isWordAt text ascii (place - 1)) != isWordAt text ascii place) != negated

/-- Does the text at `place` repeat `count` characters from `start`? -/
def repeatsAt (rule : CaseRule) (start place : Nat) : Nat → Bool
  | 0 => true
  | count + 1 => match text[start]?, text[place]? with
    | some a, some b => rule.folded a = rule.folded b && repeatsAt rule (start + 1) (place + 1) count
    | _, _ => false

/-- How many characters from `place` on are in a set, at most `bound`. -/
def runLength (set : CharSet) (place : Nat) : Nat → Nat
  | 0 => 0
  | bound + 1 => match text[place]? with
    | some c => if set.contains c then runLength set (place + 1) bound + 1 else 0
    | none => 0

/-- The first success of the rest after `low + more`, `low + more - 1`, … `low` characters. -/
def mostFirst (rest : Rest) (place low : Nat) (captures : Captures) :
    Nat → Option (Nat × Captures)
  | 0 => rest (place + low) captures
  | more + 1 => match rest (place + low + (more + 1)) captures with
    | some found => some found
    | none => mostFirst rest place low captures more

/-- The first success of the rest after `low`, `low + 1`, … `low + more` characters. -/
def fewestFirst (rest : Rest) (place low : Nat) (captures : Captures) :
    Nat → Option (Nat × Captures)
  | 0 => rest (place + low) captures
  | more + 1 => match rest (place + low) captures with
    | some found => some found
    | none => fewestFirst rest place (low + 1) captures more

/-- Repetition of a single character of a set. -/
def setRounds (low : Nat) (high : Option Nat) (greed : Greed) (set : CharSet) : Matcher :=
  fun rest place captures =>
    let left := text.size - place
    let count := runLength text set place ((high.map (min left ·)).getD left)
    if count < low then none
    else match greed with
      | .greedy => mostFirst rest place low captures (count - low)
      | .lazy => fewestFirst rest place low captures (count - low)
      | .possessive => rest (place + count) captures

end

/-- The first way of a matcher, and no other. -/
def firstOnly (body : Matcher) : Matcher := fun rest place captures =>
  match body (fun stop captures => some (stop, captures)) place captures with
  | some (stop, captures) => rest stop captures
  | none => none

/-- Exactly `count` rounds. -/
def exactRounds (body : Matcher) : Nat → Matcher
  | 0, rest => rest
  | count + 1, rest => body (exactRounds body count rest)

/-- May another optional round start, with `left` rounds allowed and the last one started at
`last`? -/
def mayStart (left : Option Nat) (last : Option Nat) (place : Nat) : Bool :=
  left ≠ some 0 && last ≠ some place

/-- Optional rounds, the most first. -/
def greedyRounds (body : Matcher) (rest : Rest) : Nat → Option Nat → Option Nat → Rest
  | 0, _, _, place, captures => rest place captures
  | fuel + 1, left, last, place, captures =>
    if mayStart left last place then
      match body (greedyRounds body rest fuel (left.map (· - 1)) (some place)) place captures with
      | some found => some found
      | none => rest place captures
    else rest place captures

/-- Optional rounds, the fewest first. -/
def lazyRounds (body : Matcher) (rest : Rest) : Nat → Option Nat → Option Nat → Rest
  | 0, _, _, place, captures => rest place captures
  | fuel + 1, left, last, place, captures =>
    match rest place captures with
    | some found => some found
    | none =>
      if mayStart left last place then
        body (lazyRounds body rest fuel (left.map (· - 1)) (some place)) place captures
      else none

/-- A matcher that repeats another. Every optional round but one uses a character,
so `size + 2` rounds are as good as any number. -/
def roundsOf (size low : Nat) (high : Option Nat) (greed : Greed) (body : Matcher) : Matcher :=
  let left := high.map (· - low)
  match greed with
  | .greedy => fun rest => exactRounds body low (greedyRounds body rest (size + 2) left none)
  | .lazy => fun rest => exactRounds body low (lazyRounds body rest (size + 2) left none)
  | .possessive =>
    let step := firstOnly body
    firstOnly fun rest =>
      exactRounds step low (greedyRounds step rest (size + 2) left none)

/-- Matches a pattern at a place and hands every way to the rest, in order of preference. -/
def matchAt (text : Array Char) : Pattern → Matcher
  | .empty, rest => rest
  | .oneOf chars, rest => fun place captures =>
    match text[place]? with
    | some c => if chars.contains c then rest (place + 1) captures else none
    | none => none
  | .anchor condition, rest => fun place captures =>
    if anchorHolds text place condition then rest place captures else none
  | .seq first second, rest => matchAt text first (matchAt text second rest)
  | .alt first second, rest => fun place captures =>
    match matchAt text first rest place captures with
    | some found => some found
    | none => matchAt text second rest place captures
  | .group index body, rest => fun place captures =>
    matchAt text body (fun stop captures => rest stop ((index, ⟨place, stop⟩) :: captures))
      place captures
  -- a reference to a group that has not matched fails
  | .backReference index rule, rest => fun place captures =>
    match captures.get? index with
    | none => none
    | some span =>
      let count := span.stop - span.start
      if repeatsAt text rule span.start place count then rest (place + count) captures else none
  -- one way is enough, and it uses up no characters
  | .ahead negated body, rest => fun place captures =>
    match matchAt text body (fun stop captures => some (stop, captures)) place captures, negated with
    | some (_, captures), false => rest place captures
    | none, true => rest place captures
    | _, _ => none
  | .behind negated width body, rest => fun place captures =>
    if place < width then (if negated then rest place captures else none)
    else
      match matchAt text body (fun stop captures => some (stop, captures)) (place - width) captures,
        negated with
      | some (_, captures), false => rest place captures
      | none, true => rest place captures
      | _, _ => none
  | .atomic body, rest => firstOnly (fun rest => matchAt text body rest) rest
  | .rounds low high greed body, rest =>
    match body with
    -- rounds of one character are counted first, as all of them have the same width
    | .oneOf chars => setRounds text low high greed chars rest
    | body => roundsOf text.size low high greed (fun rest => matchAt text body rest) rest
  | .ifGroup index matched unmatched, rest => fun place captures =>
    if (captures.get? index).isSome then matchAt text matched rest place captures
    else matchAt text unmatched rest place captures

/-- The preferred match that starts at a place. With `advancing` it is not empty. -/
def matchFrom? (pattern : Pattern) (text : Array Char) (advancing : Bool) (place : Nat) :
    Option Match :=
  let accept : Rest := fun stop captures =>
    if advancing && stop = place then none else some (stop, captures)
  (pattern.matchAt text accept place []).map fun (stop, captures) => ⟨⟨place, stop⟩, captures⟩

/-- The leftmost match among `count` starting places from `place` on. Only the first of them may be
required to advance. -/
def findFrom? (pattern : Pattern) (text : Array Char) (advancing : Bool) (place : Nat) :
    Nat → Option Match
  | 0 => none
  | count + 1 => match pattern.matchFrom? text advancing place with
    | some found => some found
    | none => findFrom? pattern text false (place + 1) count

/-- The leftmost match in a text. -/
def find? (pattern : Pattern) (text : String) : Option Match :=
  let chars := text.toList.toArray
  pattern.findFrom? chars false 0 (chars.size + 1)

/-- Does a pattern match somewhere in a text? -/
def isFoundIn (pattern : Pattern) (text : String) : Bool := (pattern.find? text).isSome

/-- The matches from `place` on. Each search starts where the match before it ends, and an empty
match is not followed by another at its place. -/
def findAllFrom (pattern : Pattern) (text : Array Char) : Nat → Bool → Nat → List Match
  | 0, _, _ => []
  | fuel + 1, advancing, place =>
    match pattern.findFrom? text advancing place (text.size + 1 - place) with
    | none => []
    | some found =>
      found :: findAllFrom pattern text fuel (found.span.start = found.span.stop) found.span.stop

/-- The matches of a pattern in a text, from left to right. -/
def findAll (pattern : Pattern) (text : String) : List Match :=
  let chars := text.toList.toArray
  pattern.findAllFrom chars (2 * chars.size + 2) false 0

end Pattern

namespace Match

/-- The text between two places, in characters. -/
def textOf (text : String) (span : Span) : String :=
  String.ofList ((text.toList.drop span.start).take (span.stop - span.start))

/-- What a group captured, or the empty text. -/
def groupText (found : Match) (text : String) (index : Nat) : String :=
  ((found.captures.get? index).map (textOf text)).getD ""

/-- The matched text. -/
def matchedText (found : Match) (text : String) : String := textOf text found.span

end Match

end ProposalCheck

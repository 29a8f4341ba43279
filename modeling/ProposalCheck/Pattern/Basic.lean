import ProposalCheck.Text.Blank
import ProposalCheck.Text.Word
import ProposalCheck.Text.Case

/-!
# Text patterns

A pattern describes pieces of text. It is built from sets of characters, anchors between characters,
sequence, ordered choice, repetition, captured groups with references to them, and assertions about
what stands ahead or behind.

## Main definitions

* `CharSet`: the characters that one place of a pattern admits
* `Anchor`: conditions on a place between characters
* `Pattern`: the patterns
-/

namespace ProposalCheck

/-- Kinds of characters that a pattern names by a letter. -/
inductive CharKind where
  | digit
  | blank
  | word
  deriving DecidableEq, Repr

/-- Does a character belong to a kind? With `ascii`, only characters below 128 do. -/
def CharKind.contains (kind : CharKind) (ascii : Bool) (c : Char) : Bool :=
  (!ascii || c.toNat < 128) && match kind with
    | .digit => isDecimalDigit c
    | .blank => isBlank c && !(ascii && 0x1C ≤ c.toNat && c.toNat ≤ 0x1F)
    | .word => isWordChar c

/-- One condition in a character set. -/
inductive CharTest where
  | single (c : Char)
  | range (low high : Nat)
  | kind (which : CharKind) (ascii negated : Bool)
  deriving DecidableEq, Repr

/-- Does a character meet a condition? -/
def CharTest.accepts (c : Char) : CharTest → Bool
  | .single d => c = d
  | .range low high => low ≤ c.toNat && c.toNat ≤ high
  | .kind which ascii negated => which.contains ascii c != negated

/-- How a character set treats case. -/
inductive CaseRule where
  | exact
  | ignore
  | ignoreAscii
  deriving DecidableEq, Repr

namespace CaseRule

/-- The characters that a rule does not tell from `c`. -/
def variants (c : Char) : CaseRule → List Char
  | .exact => [c]
  | .ignore => caseVariants c
  | .ignoreAscii => [c.toLower, c.toUpper]

/-- The character that stands for all that the rule takes for one. -/
def folded (c : Char) : CaseRule → Char
  | .exact => c
  | .ignore => lowerChar c
  | .ignoreAscii => c.toLower

end CaseRule

/-- A set of characters: those that meet one of the tests, or none of them if `negated`. -/
structure CharSet where
  tests : List CharTest
  negated : Bool
  caseRule : CaseRule
  deriving DecidableEq, Repr

/-- Is a character in the set? Kinds are tested on the folded character. -/
def CharSet.contains (set : CharSet) (c : Char) : Bool :=
  set.negated != set.tests.any fun test =>
    match test with
    | .kind .. => test.accepts (set.caseRule.folded c)
    | _ => (set.caseRule.variants c).any test.accepts

/-- Conditions on a place between characters. -/
inductive Anchor where
  | textStart
  | textEnd
  | lineStart
  | lineEnd
  /-- The end of the text or the place before a line feed that ends it. -/
  | lastLineEnd
  | wordEdge (ascii negated : Bool)
  deriving DecidableEq, Repr

/-- How a repetition chooses its number of rounds: as many as possible, as few as possible, or as
many as possible without trying fewer. -/
inductive Greed where
  | greedy
  | lazy
  | possessive
  deriving DecidableEq, Repr

/-- A description of pieces of text. Groups count from 1. -/
inductive Pattern where
  | empty
  | oneOf (set : CharSet)
  | anchor (anchor : Anchor)
  | seq (first second : Pattern)
  | alt (first second : Pattern)
  | group (index : Nat) (body : Pattern)
  | backReference (index : Nat) (caseRule : CaseRule)
  | ahead (negated : Bool) (body : Pattern)
  /-- The text behind, of exactly `width` characters. -/
  | behind (negated : Bool) (width : Nat) (body : Pattern)
  /-- The first way to match the body, and no other. -/
  | atomic (body : Pattern)
  | rounds (low : Nat) (high : Option Nat) (greed : Greed) (body : Pattern)
  /-- One of two patterns, as a group has matched or not. -/
  | ifGroup (index : Nat) (matched unmatched : Pattern)
  deriving DecidableEq, Repr

namespace Pattern

/-- The pattern of one given character. -/
def char (c : Char) : Pattern := .oneOf ⟨[.single c], false, .exact⟩

/-- Patterns one after the other. -/
def seqAll : List Pattern → Pattern
  | [] => .empty
  | [p] => p
  | p :: ps => .seq p (seqAll ps)

/-- The pattern of a given text. -/
def literal (text : String) : Pattern := seqAll (text.toList.map char)

end Pattern

end ProposalCheck

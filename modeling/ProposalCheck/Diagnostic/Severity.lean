/-!
# Severities

Findings are graded from `error` down to `help`. A rule may be capped: none of its findings is then
shown as more severe than the cap.

## Main definitions

* `Severity`: the five grades
* `Severity.weight`, `Severity.cap`: their order, and the less severe of two
* `Severity.resolve`: the severity of an annotation that may leave it open
-/

namespace ProposalCheck

/-- How severe a finding is. -/
inductive Severity where
  | error
  | warning
  | info
  | note
  | help
  deriving DecidableEq, Repr, Inhabited

namespace Severity

/-- All severities, most severe first. -/
def all : List Severity := [.error, .warning, .info, .note, .help]

/-- The word for a severity. -/
def name : Severity → String
  | .error => "error"
  | .warning => "warning"
  | .info => "info"
  | .note => "note"
  | .help => "help"

/-- The severity that a word stands for. -/
def ofName? (word : String) : Option Severity := all.find? (·.name = word)

/-- Heavier is more severe. -/
def weight : Severity → Nat
  | .error => 4
  | .warning => 3
  | .info => 2
  | .note => 1
  | .help => 0

/-- The less severe of a severity and a ceiling. -/
def cap (severity ceiling : Severity) : Severity :=
  if ceiling.weight < severity.weight then ceiling else severity

/-- The severity set by a rule, or else the default, lowered to the ceiling if there is one. -/
def resolve (severity : Option Severity) (default : Severity) (ceiling : Option Severity) :
    Severity :=
  let chosen := severity.getD default
  match ceiling with
  | some ceiling => chosen.cap ceiling
  | none => chosen

end Severity

end ProposalCheck

import Mathlib.Order.Lattice
import ProposalCheck.Diagnostic.Snippet

/-!
# Findings under a ceiling

Severities are ordered by their weights, and the less severe of two is their minimum. A ceiling is the
last thing that counts when a severity is settled: it does not matter whether the severity was set by a
rule or is the default. So a finding settled under a ceiling is the finding settled without one, with
every severity in it lowered.

## Main definitions

* `Snippet.lowered`: a finding with every severity lowered to a ceiling

## Main results

* `Severity.cap_eq_min`: a cap is a minimum
* `Snippet.resolve_ceiling`: settling under a ceiling is settling without one and lowering
-/

namespace ProposalCheck

namespace Severity

theorem weight_injective : Function.Injective weight := by
  intro severity other h
  cases severity <;> cases other <;> first | rfl | cases h

/-- Severities by weight, so that the less severe of two is the smaller one. -/
instance : LinearOrder Severity := LinearOrder.lift' weight weight_injective

theorem lt_iff {severity other : Severity} : severity < other ↔ severity.weight < other.weight :=
  Iff.rfl

theorem cap_eq_min (severity ceiling : Severity) : severity.cap ceiling = min severity ceiling := by
  rw [cap]
  split
  case isTrue h => exact (min_eq_right (le_of_lt (lt_iff.mpr h))).symm
  case isFalse h => exact (min_eq_left (not_lt.mp fun hlt => h (lt_iff.mp hlt))).symm

/-- A ceiling lowers what is chosen without it. -/
theorem resolve_ceiling (severity : Option Severity) (default ceiling : Severity) :
    resolve severity default (some ceiling) = min (resolve severity default none) ceiling :=
  cap_eq_min _ _

end Severity

variable (default ceiling : Severity)

/-- The note with its severity lowered to a ceiling. -/
def Note.lowered (note : Note) : Note := { note with severity := note.severity.map (min · ceiling) }

/-- The mark with its severity lowered to a ceiling. -/
def Mark.lowered (mark : Mark) : Mark := { mark with severity := mark.severity.map (min · ceiling) }

/-- The excerpt with the severity of every mark lowered to a ceiling. -/
def Excerpt.lowered (excerpt : Excerpt) : Excerpt :=
  { excerpt with marks := excerpt.marks.map (·.lowered ceiling) }

/-- The finding with every severity in it lowered to a ceiling: that of the title, those of the footer
and those of all marks. -/
def Snippet.lowered (snippet : Snippet) : Snippet where
  title := snippet.title.lowered ceiling
  footer := snippet.footer.map (·.lowered ceiling)
  excerpts := snippet.excerpts.map (·.lowered ceiling)

theorem Note.resolve_ceiling (note : Note) :
    note.resolve default (some ceiling) = (note.resolve default none).lowered ceiling := by
  rw [resolve, Severity.resolve_ceiling]
  rfl

theorem Mark.resolve_ceiling (mark : Mark) :
    mark.resolve default (some ceiling) = (mark.resolve default none).lowered ceiling := by
  rw [resolve, Severity.resolve_ceiling]
  rfl

theorem Excerpt.resolve_ceiling (excerpt : Excerpt) :
    excerpt.resolve default (some ceiling) = (excerpt.resolve default none).lowered ceiling := by
  simp [resolve, lowered, Mark.resolve_ceiling default ceiling]

/-- Settling a finding under a ceiling is settling it without one and lowering it. -/
theorem Snippet.resolve_ceiling (snippet : Snippet) (slug : String) :
    snippet.resolve slug default (some ceiling) = (snippet.resolve slug default).lowered ceiling := by
  have htitle := snippet.title.resolve_ceiling default ceiling
  rw [resolve, htitle]
  simp [resolve, lowered, Note.lowered, Note.resolve_ceiling default ceiling,
    Excerpt.resolve_ceiling default ceiling]

end ProposalCheck

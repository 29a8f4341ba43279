import Mathlib.Data.List.Basic
import ProposalCheck.Lint.Context

/-!
# Excerpts that can be shown

A mark is taken if its bounds are in order, and an excerpt is if no mark reaches beyond it. So the lines of a
document can be shown with every mark that stands within them.

## Main results

* `Context.checkMark_eq`: marks that are taken
* `Context.lineExcerpt_eq`, `Context.linesExcerpt_eq`: excerpts that are shown
-/

namespace ProposalCheck

namespace Context

variable {context : Context} {source : String} {marks : List Mark}

theorem checkMark_eq {start stop : Nat} (h : start ≤ stop) (label : String) (severity : Option Severity) :
    checkMark (start, stop) label severity = .ok { range := ⟨start, stop⟩, label, severity } := by
  have hbounds : ¬((start : Int) < 0 ∨ (stop : Int) < start) := by omega
  rw [checkMark, Mark.checkRange, if_neg hbounds]
  rfl

theorem checkExcerpt_eq {excerpt : Excerpt}
    (h : ∀ mark ∈ excerpt.marks, mark.range.stop ≤ excerpt.source.utf8ByteSize) :
    checkExcerpt excerpt = .ok excerpt := by
  have hnone : excerpt.marks.find? (fun mark => excerpt.source.utf8ByteSize < mark.range.stop) = none := by
    rw [List.find?_eq_none]
    intro mark hmark
    simpa using h mark hmark
  rw [checkExcerpt, Excerpt.problem?, hnone]
  rfl

/-- A line can be shown with any marks that do not reach beyond it. -/
theorem lineExcerpt_eq {line : Int} (hline : context.lines.line line = .ok source)
    (hmarks : ∀ mark ∈ marks, mark.range.stop ≤ source.utf8ByteSize) :
    context.lineExcerpt line marks =
      .ok { origin := context.document.origin, lineStart := line, source, marks } := by
  rw [lineExcerpt, hline]
  exact checkExcerpt_eq hmarks

/-- Lines can be shown with any marks that do not reach beyond them. -/
theorem linesExcerpt_eq {first last : Int} (hlines : context.lines.lines first last = .ok source)
    (hmarks : ∀ mark ∈ marks, mark.range.stop ≤ source.utf8ByteSize) (fold : Bool) :
    context.linesExcerpt first last marks fold =
      .ok { origin := context.document.origin, lineStart := first, source, fold, marks } := by
  rw [linesExcerpt, hlines]
  exact checkExcerpt_eq hmarks

end Context

end ProposalCheck

import ProposalCheck.Diagnostic.Exchange
import ProposalCheck.Lint.Context

/-!
# Settings that depend on the document

Before the rules look at a document its settings may be changed, one change after the other. Whatever
can change settings is a modifier. The modifiers that can be given as data look at the preamble:
proposals that are no longer pursued are judged with less severity.

## Main definitions

* `Modifier`: a kind of changes of settings
* `Modifier.modifyAll`: the settings after several changes
* `SeverityModifier`: the default severity for documents with some value in a header
* `standardModifiers`: the standard changes
-/

namespace ProposalCheck

/-- A kind of changes of settings. A change sees the document with the settings it starts from, and the
settings that earlier changes have left. -/
class Modifier (μ : Type) where
  modify : μ → Context → LintSettings → LintSettings

/-- The settings after several changes, one after the other. -/
def Modifier.modifyAll {μ : Type} [Modifier μ] (modifiers : List μ) (context : Context) : LintSettings :=
  modifiers.foldl (fun settings modifier => Modifier.modify modifier context settings) context.settings

/-- Documents in which a header has some value are judged with some severity by default. -/
structure SeverityModifier where
  name : String
  value : String
  severity : Severity
  deriving DecidableEq, Repr

namespace SeverityModifier

/-- The kind of these changes. -/
def kind : String := "set-default-annotation"

/-- Does a change concern a document? -/
def isFor (modifier : SeverityModifier) (preamble : Preamble) : Bool :=
  (preamble.find? modifier.name).any (·.trimmed = modifier.value)

/-- The settings after a change. -/
def apply (modifier : SeverityModifier) (preamble : Preamble) (settings : LintSettings) :
    LintSettings :=
  if modifier.isFor preamble then { settings with defaultSeverity := modifier.severity } else settings

instance : Modifier SeverityModifier where
  modify modifier context settings := modifier.apply context.preamble settings

/-- A change as data. -/
def toJson (modifier : SeverityModifier) : Json :=
  .obj [("kind", .str kind), ("name", .str modifier.name), ("value", .str modifier.value),
    ("annotation_type", .str modifier.severity.name)]

/-- The kind of a change, which may be left out. -/
def checkKind : Json → Checked Unit
  | .str text => if text = kind then .ok () else .fail .literal
  | _ => .fail .literal

/-- Reads a change. -/
def ofJson : Json → Checked SeverityModifier
  | .obj members =>
    let known := ["kind", "name", "value", "annotation_type"]
    (Checked.map4 (fun _ name value severity => ⟨name, value, severity⟩)
      (Shape.optional members "kind" () checkKind)
      (Shape.required members "name" Shape.text)
      (Shape.required members "value" Shape.text)
      (Shape.required members "annotation_type" (Shape.oneOf Severity.ofName?))).alsoCheck
        (Shape.unknownMembers known members)
  | _ => .fail .modelType

end SeverityModifier

/-- Proposals that are no longer pursued only get warnings. -/
def standardModifiers : List SeverityModifier :=
  [⟨"status", "Stagnant", .warning⟩, ⟨"status", "Withdrawn", .warning⟩]

end ProposalCheck

import ProposalCheck.Lint.Options
import ProposalCheck.Yaml.Data

/-!
# Options in a file

A file of options holds a mapping in YAML. A file that holds nothing asks for nothing.

## Main definitions

* `OptionsFileProblem`: why a file holds no options
* `LintOptions.ofFile`: the options in the text of a file
-/

namespace ProposalCheck

/-- Why a file holds no options. -/
inductive OptionsFileProblem where
  /-- There is no text, or the text is not YAML. -/
  | unreadable
  | notMapping
  | invalid (issues : List Issue)
  deriving DecidableEq, Repr

/-- The wording of a problem with the file of a name. -/
def OptionsFileProblem.message (name : String) : OptionsFileProblem → String
  | .unreadable => s!"cannot read config {name}"
  | .notMapping => s!"config {name} must be a mapping"
  | .invalid _ => "invalid lint options"

namespace LintOptions

/-- The options that data in a file stand for. -/
def ofData : Yaml.Data → Except OptionsFileProblem LintOptions
  | ⟨.null, true⟩ => .ok {}
  | ⟨.obj members, true⟩ => (ofMembers members).mapError .invalid
  | ⟨.obj _, false⟩ => .error (.invalid [])
  | _ => .error .notMapping

/-- The options in the text of a file. -/
def ofFile (text : String) : Except OptionsFileProblem LintOptions :=
  match Yaml.Data.ofText text with
  | .ok data => ofData data
  | .error _ => .error .unreadable

end LintOptions

end ProposalCheck

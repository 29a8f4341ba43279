import ProposalCheck.Config.Settings
import ProposalCheck.Lint.Options
import ProposalCheck.Lint.Run
import ProposalCheck.Report.Template
import ProposalCheck.Rule.Standard

/-!
# Checking documents with options

Options and settings make up a linter: the standard rules unless the options replace them, with the
levels that the options give. A host hands over paths and gets findings as data, each with a line of
help.

## Main definitions

* `LintOptions.linter?`: the linter that options describe
* `helpOf`: the line of help for a rule
* `lintPaths`: the findings in the documents at some paths
-/

namespace ProposalCheck

namespace LintOptions

/-- The steps that options ask for: first what is allowed, then the warnings, then what counts in
full. -/
def steps (options : LintOptions) : List (Linter.Step Rule) :=
  options.allow.map .allow ++ options.warn.map .warn ++ options.deny.map .deny

/-- A linter with the rules of the options. -/
def newLinter (options : LintOptions) (source : Source) (settings : Settings) : Linter Rule where
  rules := options.rules.getD standardRules
  modifiers := options.modifiers.getD standardModifiers
  source := source
  timeLimit := settings.timeLimit
  foldThreshold := settings.foldThreshold

/-- The linter that options describe. -/
def linter? (options : LintOptions) (source : Source) (settings : Settings) :
    Except ConfigurationError (Linter Rule) :=
  (options.newLinter source settings).tryAll options.steps

end LintOptions

/-- The line of help for a rule. -/
def helpOf (template : String) (id : String) : Except TemplateFault String := fillTemplate template id

/-- A run over the documents at some paths, which keeps findings as data. -/
def lintPaths (source : Source) (settings : Settings) (options : LintOptions) (paths : List String) :
    Except ConfigurationError (Linter.Outcome Rule (List Json) TemplateFault) := do
  let linter ← options.linter? source settings
  let linter := linter.takeAll (paths.map fun path => .queue (.path path))
  linter.run Rule.check (Reporter.data.withHelp (helpOf settings.helpTemplate)) []

end ProposalCheck

import ProposalCheck.CommandLine.Arguments
import ProposalCheck.Config.OptionsFile
import ProposalCheck.Fetch.Folder
import ProposalCheck.Json.Encode
import ProposalCheck.Lint.Host

/-!
# The program

The program checks the documents at some paths and prints what it finds, as text or as data. It exits
with 1 if there are errors among its findings, and with 2 if it cannot do what it is asked for. Other
documents are asked for as they are needed, so a call of the program is a computation that asks for
documents.

## Main definitions

* `Output`: what the program prints, and how it exits
* `ProgramFault`: why the program breaks off
* `Arguments.options`: the options of a call, from a file and from the command line
* `Program.answer`: what a command line leads to
-/

namespace ProposalCheck

/-- What the program prints, and how it exits. -/
structure Output where
  exit : Nat := 0
  stdout : String := ""
  stderr : String := ""
  deriving DecidableEq, Repr

/-- Why the program breaks off without saying anything. -/
inductive ProgramFault where
  /-- The file with options is no text. -/
  | notUtf8
  | run (error : RunError TemplateFault)

/-- Why there are no options for a call. -/
inductive OptionsProblem where
  | file (name : String) (problem : OptionsFileProblem)
  | notUtf8
  deriving DecidableEq, Repr

namespace Output

/-- The program cannot do what it is asked for. -/
def failure (message : String) : Output := { exit := 2, stderr := s!"error: {message}\n" }

/-- A text on lines of its own; an empty one is not printed. -/
def line (text : String) : String := if text = "" then "" else text ++ "\n"

end Output

/-- A path as it is shown: without empty names and without those of the folder itself. -/
def shownPath (path : String) : String :=
  let names := "/".intercalate (Folder.names path)
  let root := (path.toList.takeWhile (· = '/')).length
  if root = 2 then "//" ++ names
  else if 0 < root then "/" ++ names
  else if names = "" then "."
  else names

namespace Arguments

/-- The options in the file of a call. -/
def fileOptions (arguments : Arguments) (read : String → Except TextProblem String) :
    Except OptionsProblem LintOptions :=
  match arguments.config with
  | none => .ok {}
  | some path => match read path with
    | .ok text => (LintOptions.ofFile text).mapError (.file (shownPath path))
    | .error .notUtf8 => .error .notUtf8
    | .error (.file _) => .error (.file (shownPath path) .unreadable)

/-- The options of a call. Those of the command line come after those of the file. -/
def options (arguments : Arguments) (read : String → Except TextProblem String) :
    Except OptionsProblem LintOptions := do
  let options ← arguments.fileOptions read
  return { options with
    allow := options.allow ++ arguments.allow
    warn := options.warn ++ arguments.warn
    deny := options.deny ++ arguments.deny }

end Arguments

namespace Program

/-- The name and version of the program. -/
def version : String := "proplint 0.4.0"

/-- The rules of a linter with their levels, a line for each. -/
def listing (linter : Linter Rule) : String :=
  String.join (linter.rules.map fun (name, _) => s!"{name}\t{(linter.level name).name}\n")

/-- What is printed after a run. -/
def report {σ : Type} (shown : σ → String) :
    (List Severity × σ) × Option (RunError TemplateFault) → Except ProgramFault Output
  | ((seen, kept), none) =>
    .ok { exit := if seen.contains .error then 1 else 0, stdout := Output.line (shown kept) }
  | (_, some error) => match error.message? with
    | some message => .ok (.failure message)
    | none => .error (.run error)

/-- Runs a linter over its documents and prints what is found in a form. -/
def check (linter : Linter Rule) (settings : Settings) (format : OutputFormat) :
    Query (Except ProgramFault Output) := do
  let help := helpOf settings.helpTemplate
  match format with
  | .text =>
    let reporter := (Reporter.text.withHelp help).counted
    return report Reporter.joinedText
      (← Linter.checkQueue Rule.check reporter linter linter.queue ([], []))
  | .json =>
    let reporter := (Reporter.data.withHelp help).counted
    return report (fun kept => (Json.arr kept).encodeIndented)
      (← Linter.checkQueue Rule.check reporter linter linter.queue ([], []))

/-- What some arguments lead to with the options of the call. -/
def run (arguments : Arguments) (options : LintOptions) (settings : Settings) :
    Query (Except ProgramFault Output) :=
  if arguments.sources.isEmpty && !arguments.listsRules then .done (.ok { exit := 2 })
  else match options.linter? (fun _ => .refused "") settings with
  | .error error => .done (.ok (.failure error.message))
  | .ok linter =>
    if arguments.listsRules then .done (.ok { stdout := listing linter })
    else
      let linter := linter.takeAll (arguments.sources.map fun path => .queue (.path path))
      check linter settings arguments.format

/-- What a command line leads to. The file with options is read through `read`. -/
def answer (settings : Settings) (read : String → Except TextProblem String) (words : List String) :
    Query (Except ProgramFault Output) :=
  match Request.ofWords words with
  | .version => .done (.ok { stdout := Output.line version })
  | .help => .done (.ok {})
  | .misuse => .done (.ok { exit := 2 })
  | .run arguments => match arguments.options read with
    | .ok options => run arguments options settings
    | .error .notUtf8 => .done (.error .notUtf8)
    | .error (.file name problem) => .done (.ok (.failure (problem.message name)))

end Program

end ProposalCheck

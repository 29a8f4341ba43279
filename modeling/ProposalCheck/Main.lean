import ProposalCheck.CommandLine.Program

/-!
# The command line

The settings come from the environment and from a file in the working folder. The documents that the
program asks for are read from the working folder, and what it prints goes to the standard streams.
-/

namespace ProposalCheck

/-- The names of the settings. -/
def settingNames : List String := ["LOG_LEVEL", "HELP_URL", "FETCH_TIMEOUT", "FOLD_THRESHOLD"]

/-- The variables of the environment that are settings. -/
def readEnvironment : IO (List (String × String)) := do
  let found ← settingNames.mapM fun name => do
    let name := "PROPLINT_" ++ name
    return (← IO.getEnv name).map fun value => (name, value)
  return found.filterMap id

/-- The text of a file. -/
def readText (path : String) : IO (Except TextProblem String) := do
  try return TextProblem.decode (← IO.FS.readBinFile path).toList
  catch _ => return .error (.file .missing)

/-- Answers a computation that asks for documents from files. -/
def answerFromFiles {α : Type} (limit : Option TimeLimit) : Query α → IO α
  | .done value => return value
  | .ask path next => do
    let answer ←
      if Source.isAsked limit then do
        pure ((TextProblem.response (← readText path)).settle limit)
      else pure (.error (lateReason limit))
    answerFromFiles limit (next answer)

/-- Runs the program with some settings. -/
def runWith (settings : Settings) (words : List String) : IO UInt32 := do
  let config ← match Request.ofWords words with
    | .run { config := some path, .. } => readText path
    | _ => pure (.error (.file .missing))
  let query := Program.answer settings (fun _ => config) words
  match ← answerFromFiles settings.timeLimit query with
  | .ok output =>
    IO.print output.stdout
    IO.eprint output.stderr
    return output.exit.toUInt32
  | .error _ =>
    IO.eprintln "error: the program broke off"
    return 2

end ProposalCheck

/-- Runs the program on the words of the command line. -/
def main (words : List String) : IO UInt32 := do
  let environment ← ProposalCheck.readEnvironment
  let file := (← ProposalCheck.readText ".env").toOption.getD ""
  match ProposalCheck.Settings.ofLayers [] environment file with
  | .ok settings => ProposalCheck.runWith settings words
  | .error _ =>
    IO.eprintln "error: invalid settings"
    return 2

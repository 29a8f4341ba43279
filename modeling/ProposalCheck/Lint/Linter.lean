import ProposalCheck.Fetch.Source
import ProposalCheck.Lint.Modifier

/-!
# The configuration of a linter

A linter is configured, runs once and is done. Rules are registered by name; each of them may be
allowed, so that it does not run, or its findings may only warn, or count in full. Allowing a rule wins
over all else, and of the other two levels the one set last counts.

The rules and the changes of settings may be of any kind: their types are parameters.

## Main definitions

* `Level`, `Phase`: how a rule counts, and how far a linter has come
* `Linter`: a linter with its rules, changes of settings and queued documents
* `Linter.Step`, `Linter.take`: the steps of configuration
* `Linter.start`: the start of a run, after which no step is taken
* `Linter.level`, `Linter.enabled`: the level of a rule, and the rules that will run
-/

namespace ProposalCheck

/-- How a rule counts. -/
inductive Level where
  /-- It does not run. -/
  | allow
  /-- Its findings are warnings at most. -/
  | warn
  /-- Its findings keep their severities. -/
  | deny
  deriving DecidableEq, Repr

namespace Level

/-- The word for a level. -/
def name : Level → String
  | .allow => "allow"
  | .warn => "warn"
  | .deny => "deny"

/-- The highest severity that findings may have. -/
def ceiling : Level → Option Severity
  | .warn => some .warning
  | _ => none

end Level

/-- How far a linter has come. -/
inductive Phase where
  | idle
  | configured
  | running
  | done
  deriving DecidableEq, Repr

/-- The word for a phase. -/
def Phase.name : Phase → String
  | .idle => "idle"
  | .configured => "configured"
  | .running => "running"
  | .done => "done"

/-- A document to be checked: one at a path, or one that is given. -/
inductive QueuedDocument where
  | path (path : String)
  | text (text : String) (origin : Option String)
  | bytes (bytes : List UInt8) (origin : Option String)
  deriving DecidableEq, Repr

/-- Why a step of configuration, or a run, is refused. -/
inductive ConfigurationError where
  | busy (phase : Phase)
  | alreadyRun
  | unknownRule (name : String) (available : List String)
  deriving DecidableEq, Repr

/-- The wording of a refusal. -/
def ConfigurationError.message : ConfigurationError → String
  | .busy phase => s!"linter cannot be configured while {phase.name}"
  | .alreadyRun => "linter has already run"
  | .unknownRule name available => s!"Unknown rule '{name}'. Available: " ++ joinWith ", " available

/-- A linter with its rules, changes of settings and queued documents. -/
structure Linter (ρ : Type) (μ : Type := SeverityModifier) where
  /-- The rules by their names, in the order in which the names were first registered. -/
  rules : List (String × ρ)
  modifiers : List μ
  source : Source
  timeLimit : Option TimeLimit := none
  foldThreshold : Int := 6
  allowed : List String := []
  /-- Levels that were set, the last one first. -/
  levels : List (String × Level) := []
  queue : List QueuedDocument := []
  phase : Phase := .idle

namespace Linter

variable {ρ μ : Type}

/-- A step of configuration. -/
inductive Step (ρ : Type) (μ : Type := SeverityModifier) where
  | allow (name : String)
  | warn (name : String)
  | deny (name : String)
  | addRule (name : String) (rule : ρ)
  | addModifier (modifier : μ)
  | setSource (source : Source)
  | queue (document : QueuedDocument)

/-- Is a rule registered under a name? -/
def isRegistered (linter : Linter ρ μ) (name : String) : Bool := linter.rules.any (·.1 = name)

/-- The names of all rules in alphabetical order. -/
def available (linter : Linter ρ μ) : List String :=
  (linter.rules.map (·.1)).mergeSort fun a b => !decide (b < a)

/-- The rules with one more, which takes the place of a rule of that name. -/
def register (name : String) (rule : ρ) : List (String × ρ) → List (String × ρ)
  | [] => [(name, rule)]
  | (other, old) :: rest =>
    if other = name then (name, rule) :: rest else (other, old) :: register name rule rest

/-- Can the linter still be configured? -/
def isOpen (linter : Linter ρ μ) : Bool := linter.phase = .idle || linter.phase = .configured

/-- Sets the level of a rule, which must be registered. -/
def setLevel (linter : Linter ρ μ) (name : String) (level : Level) :
    Linter ρ μ × Option ConfigurationError :=
  if linter.isRegistered name then ({ linter with levels := (name, level) :: linter.levels }, none)
  else (linter, some (.unknownRule name linter.available))

/-- Takes a step of configuration, or says why it is refused. A linter that has run takes no step. -/
def take (linter : Linter ρ μ) (step : Step ρ μ) : Linter ρ μ × Option ConfigurationError :=
  if !linter.isOpen then (linter, some (.busy linter.phase))
  else
    let linter := { linter with phase := .configured }
    match step with
    | .allow name => ({ linter with allowed := name :: linter.allowed }, none)
    | .warn name => linter.setLevel name .warn
    | .deny name => linter.setLevel name .deny
    | .addRule name rule => ({ linter with rules := register name rule linter.rules }, none)
    | .addModifier modifier => ({ linter with modifiers := linter.modifiers ++ [modifier] }, none)
    | .setSource source => ({ linter with source }, none)
    | .queue document => ({ linter with queue := linter.queue ++ [document] }, none)

/-- Takes steps one after the other, whatever becomes of each. -/
def takeAll (linter : Linter ρ μ) (steps : List (Step ρ μ)) : Linter ρ μ :=
  steps.foldl (fun linter step => (linter.take step).1) linter

/-- Takes steps one after the other, up to the first that is refused. -/
def tryAll (linter : Linter ρ μ) : List (Step ρ μ) → Except ConfigurationError (Linter ρ μ)
  | [] => .ok linter
  | step :: rest =>
    match linter.take step with
    | (_, some error) => .error error
    | (linter, none) => linter.tryAll rest

/-- Starts the run of a linter that has not run yet. -/
def start (linter : Linter ρ μ) : Except ConfigurationError (Linter ρ μ) :=
  if linter.isOpen then .ok { linter with phase := .running } else .error .alreadyRun

/-- The level of a rule. -/
def level (linter : Linter ρ μ) (name : String) : Level :=
  if linter.allowed.contains name then .allow else (linter.levels.lookup name).getD .deny

/-- The rules that will run, with their levels. -/
def enabled (linter : Linter ρ μ) : List (String × ρ × Level) :=
  (linter.rules.map fun (name, rule) => (name, rule, linter.level name)).filter
    fun (_, _, level) => level ≠ .allow

end Linter

end ProposalCheck

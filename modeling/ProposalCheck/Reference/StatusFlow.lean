import ProposalCheck.Text.Blank

/-!
# Which statuses may refer to which

The statuses of a life cycle are given in ranks, each with at least one status and no status twice.
There is a step from every status to the others of its rank and to those of the next rank. A
document may refer to one whose status can be reached from its own.

## Main definitions

* `StatusFlow`: ranks of statuses
* `StatusFlow.ofRanks`: the flow of well-formed ranks
* `StatusFlow.steps`, `StatusFlow.stepsBack`: the statuses one step further, or one step before
* `StatusFlow.mayReference`: can one status be reached from another?
* `StatusFlow.referrers`: the statuses from which one can be reached
-/

namespace ProposalCheck

/-- Why ranks are not well formed. -/
inductive FlowProblem where
  | emptyRank (rank : Nat)
  | repeatedStatus (status : String)
  deriving DecidableEq, Repr

/-- The wording of a problem. -/
def FlowProblem.message : FlowProblem → String
  | .emptyRank rank => s!"flow rank {rank} is empty"
  | .repeatedStatus status => s!"status `{status}` appears more than once in flow"

/-- Statuses in ranks. -/
structure StatusFlow where
  ranks : List (List String)
  deriving DecidableEq, Repr

namespace StatusFlow

/-- The first status of `group` that is among the `seen` ones or occurs twice, or else all statuses
seen by then. -/
def seeGroup (seen : List String) : List String → Except FlowProblem (List String)
  | [] => .ok seen
  | status :: rest =>
    if status ∈ seen then .error (.repeatedStatus status) else seeGroup (seen ++ [status]) rest

/-- The statuses of ranks that follow `rank` others, in order, if they are well formed. -/
def seeRanks (seen : List String) (rank : Nat) : List (List String) → Except FlowProblem (List String)
  | [] => .ok seen
  | group :: rest =>
    if group = [] then .error (.emptyRank rank)
    else do seeRanks (← seeGroup seen group) (rank + 1) rest

/-- The flow of well-formed ranks. -/
def ofRanks (ranks : List (List String)) : Except FlowProblem StatusFlow :=
  (seeRanks [] 0 ranks).map fun _ => ⟨ranks⟩

variable (flow : StatusFlow)

/-- All statuses in order. -/
def statuses : List String := flow.ranks.flatten

/-- Is `status` part of the flow? -/
def contains (status : String) : Bool := status ∈ flow.statuses

/-- The number of the rank of a status. -/
def rank? (status : String) : Option Nat := flow.ranks.findIdx? (·.contains status)

/-- The statuses one step further than `status`, given the ranks. -/
def stepsIn (status : String) : List (List String) → List String
  | [] => []
  | [group] => if status ∈ group then group else []
  | group :: next :: rest =>
    if status ∈ group then group ++ next else stepsIn status (next :: rest)

/-- The statuses one step further than `status`. -/
def steps (status : String) : List String := stepsIn status flow.ranks

/-- The statuses of which `status` is one step further. -/
def stepsBack (status : String) : List String :=
  flow.statuses.filter fun other => status ∈ flow.steps other

/-- What is reached from those in `reached` by at most `fuel` steps, each to one of the `next`. -/
def reachedFrom (next : String → List String) : Nat → List String → List String
  | 0, reached => reached
  | fuel + 1, reached => reachedFrom next fuel ((reached ++ reached.flatMap next).eraseDups)

/-- May a document with the first status refer to one with the second? Both must be known. -/
def mayReference (status target : String) : Bool :=
  flow.contains status && flow.contains target
    && (reachedFrom flow.steps flow.ranks.length [status]).contains target

/-- The statuses from which `target` can be reached, itself among them. -/
def ancestors (target : String) : List String :=
  reachedFrom flow.stepsBack flow.ranks.length [target]

/-- The statuses that may refer to `target`, in order. No status may refer to one that is unknown. -/
def referrers (target : String) : List String :=
  if flow.contains target then
    let allowed := flow.ancestors target
    flow.statuses.filter (· ∈ allowed)
  else []

end StatusFlow

/-- Statuses in a sentence. -/
def listStatuses (statuses : List String) : String :=
  joinWith ", " (statuses.map fun status => "`" ++ status ++ "`")

end ProposalCheck

import ProposalCheck.Reference.StatusFlow
import ProposalCheck.Rule.Mention

/-!
# Rules about the status of other proposals

A proposal may only build on proposals that are at least as mature as itself. The status of another
proposal is read from its preamble; that it cannot be read is a defect of the proposal that refers to
it.

## Main definitions

* `TargetStatus`: what is known about the status of another proposal
* `RequiresStatusRule`: the proposals that a header lists
* `LinkStatusRule`: the proposals that the body links to
-/

namespace ProposalCheck

/-- What is known about the status of another proposal. -/
inductive TargetStatus where
  | status (status : String)
  | unreadable (reason : String)
  deriving DecidableEq, Repr

namespace TargetStatus

/-- Reads the status from what was fetched. -/
def ofAnswer (path statusName : String) : FetchAnswer → Finding TargetStatus
  | .error reason => .ok (.unreadable reason)
  | .ok text =>
    match Document.ofString text (some path) with
    | .error (.structure _) => .ok (.unreadable "could not be parsed")
    | .error (.position error) => .error (.position error)
    | .ok document => match document.preamble.find? statusName with
      | none => .ok (.unreadable s!"has no `{statusName}` header")
      | some field => .ok (.status field.trimmed)

/-- Fetches a proposal and reads its status. -/
def fetch (path statusName : String) : Check TargetStatus := do
  ofAnswer path statusName (← Check.fetch path)

end TargetStatus

/-- The flow of some ranks. Ranks that form no flow leave every status unknown. -/
def flowOf (ranks : List (List String)) : StatusFlow :=
  match StatusFlow.ofRanks ranks with
  | .ok flow => flow
  | .error _ => ⟨[]⟩

/-- The note that lists which statuses may refer to a status. -/
def referrersNote (flow : StatusFlow) (statusName status : String) : Note :=
  .help s!"valid `{statusName}` values for this proposal are: {listStatuses (flow.referrers status)}"

/-- Is a status known, and too early for a reference from `current`? -/
def isTooEarly (flow : StatusFlow) (current status : String) : Bool :=
  flow.contains status && !flow.mayReference current status

/-- The proposals that a header lists are mature enough. -/
structure RequiresStatusRule where
  requires : String
  status : String
  flow : List (List String)
  filePrefix : String
  suffix : String
  deriving DecidableEq, Repr

namespace RequiresStatusRule

/-- The finding about one item. -/
def itemFinding (rule : RequiresStatusRule) (context : Context) (field : Field) (current : String)
    (item : String × Span) (target : TargetStatus) : Finding (List Snippet) :=
  let flow := flowOf rule.flow
  let excerpt := fun (label : String) => context.fieldExcerpt field [{ range := item.2, label }]
  match target with
  | .unreadable reason => do
    let title :=
      s!"preamble header `{rule.requires}` references `{item.1}`, which could not be read"
    return [.about title (← excerpt reason)]
  | .status status => do
    if !isTooEarly flow current status then return []
    let title := s!"preamble header `{rule.requires}` contains items not stable enough for a "
      ++ s!"`{rule.status}` of `{current}`"
    return [.about title (← excerpt "has a less advanced status")
      [referrersNote flow rule.status status]]

/-- What the rule finds. -/
def check (rule : RequiresStatusRule) (context : Context) : Check (List Snippet) := do
  let own := (context.preamble.find? rule.status).filter fun field =>
    (flowOf rule.flow).contains field.trimmed
  match own, context.preamble.find? rule.requires with
  | some own, some field =>
    let items := (field.items ",").filter (·.1 ≠ "")
    let targets ← Check.all <| items.map fun item =>
      TargetStatus.fetch (context.resolve (rule.filePrefix ++ item.1 ++ rule.suffix)) rule.status
    let found ← (items.zip targets).mapM fun (item, target) =>
      (rule.itemFinding context field own.trimmed item target : Finding (List Snippet))
    return found.flatten
  | _, _ => return []

end RequiresStatusRule

/-- The proposals that the body links to are mature enough. -/
structure LinkStatusRule where
  status : String
  flow : List (List String)
  filePrefix : String
  suffix : String
  deriving DecidableEq, Repr

namespace LinkStatusRule

/-- A link to a proposal, the destination without its fragment, and the path it stands for. -/
structure ProposalLink where
  node : Node
  target : String
  path : String

/-- The links of the body to proposals. -/
def proposalLinks (rule : LinkStatusRule) (context : Context) : List ProposalLink :=
  context.body.links.filterMap fun node => do
    let destination ← node.destination?
    let _ ← linkedDigits? rule.filePrefix rule.suffix destination
    let target := String.ofList (destination.toList.takeWhile (· ≠ '#'))
    return ⟨node, target, context.resolve target⟩

/-- A finding about a link. -/
def linkFinding (context : Context) (node : Node) (title label : String) (footer : List Note := []) :
    Finding (List Snippet) :=
  match node.lines with
  | none => .ok [{ title := { label := title }, footer }]
  | some (line, _) => do return [.about title (← context.nodeExcerpt node line label) footer]

/-- The finding about one link. -/
def targetFinding (rule : LinkStatusRule) (context : Context) (current : String)
    (link : ProposalLink) : TargetStatus → Finding (List Snippet)
  | .unreadable reason =>
    linkFinding context link.node s!"link destination `{link.target}` could not be read" reason
  | .status status =>
    let flow := flowOf rule.flow
    if !isTooEarly flow current status then .ok []
    else linkFinding context link.node
      s!"proposal `{link.target}` is not stable enough for a `{rule.status}` of `{current}`"
      "has a less advanced status" [referrersNote flow rule.status status]

/-- The finding about one link, given what is known about the targets. -/
def findingAmong (rule : LinkStatusRule) (context : Context) (current : String)
    (targets : List (String × TargetStatus)) (link : ProposalLink) : Finding (List Snippet) :=
  match targets.lookup link.path with
  | some target => rule.targetFinding context current link target
  | none => .ok []

/-- What the rule finds. -/
def check (rule : LinkStatusRule) (context : Context) : Check (List Snippet) := do
  let own := (context.preamble.find? rule.status).filter fun field =>
    (flowOf rule.flow).contains field.trimmed
  match own with
  | none => return []
  | some own =>
    let links := rule.proposalLinks context
    let paths := (links.map (·.path)).eraseDups
    let targets ← Check.all <| paths.map fun path => do
      return (path, ← TargetStatus.fetch path rule.status)
    let found ← links.mapM fun link =>
      (rule.findingAmong context own.trimmed targets link : Finding (List Snippet))
    return found.flatten

end LinkStatusRule

end ProposalCheck

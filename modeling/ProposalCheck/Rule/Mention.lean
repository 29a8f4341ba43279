import ProposalCheck.Reference.Mention
import ProposalCheck.Rule.Pattern

/-!
# Rules about mentions of proposals

A mention of another proposal has a canonical form, should name a proposal that exists, and should
agree with the other places where proposals are named: the list of required proposals, and the
destination if the mention is a link.

## Main definitions

* `ValueReferenceRule`: mentions in a header
* `RequireReferencedRule`: mentions in a header and the list of required proposals
* `LinkTextRule`: mentions in the text of a link
-/

namespace ProposalCheck

/-- The bytes of a mention in the value of a field. -/
def Mention.bytesIn (mention : Mention) (field : Field) : Span :=
  bytesOf field.valueOffset field.value ⟨mention.place, mention.place + mention.text.length⟩

/-- Mentions in a header have the canonical form, and there are such proposals. -/
structure ValueReferenceRule where
  name : String
  filePrefix : String
  suffix : String
  deriving DecidableEq, Repr

namespace ValueReferenceRule

/-- The path of a proposal. -/
def path (rule : ValueReferenceRule) (context : Context) (number : Nat) : String :=
  context.resolve (rule.filePrefix ++ toString number ++ rule.suffix)

/-- The mark for a mention, given why its proposal cannot be read, if so. -/
def mark? (rule : ValueReferenceRule) (context : Context) (field : Field) (mention : Mention)
    (reason : Option String) : Option Mark :=
  let expected := canonicalReference rule.filePrefix mention.number
  let range := mention.bytesIn field
  match reason with
  | some reason => some { range, label := s!"`{rule.path context mention.number}` {reason}" }
  | none =>
    if String.ofList mention.text = expected then none
    else some { range, label := s!"write this as `{expected}`" }

/-- What the rule finds. -/
def check (rule : ValueReferenceRule) (context : Context) : Check (List Snippet) := do
  match context.preamble.find? rule.name with
  | none => return []
  | some field =>
    let found := mentions rule.filePrefix field.value
    -- a proposal is asked for once, however often it is mentioned
    let numbers := (found.map (·.number)).eraseDups
    let reasons ← Check.all <| numbers.map fun number => do
      match ← Check.fetch (rule.path context number) with
      | .ok _ => return (number, none)
      | .error reason => return (number, some reason)
    let marks := found.filterMap fun mention =>
      rule.mark? context field mention (reasons.lookup mention.number).join
    let example_ := canonicalReference rule.filePrefix 1
    marksFinding context field
      s!"preamble header `{rule.name}` has invalid references to proposals" marks
      [.help s!"reference existing proposals as `{example_}`"]

end ValueReferenceRule

/-- Proposals mentioned in one header are listed in another. -/
structure RequireReferencedRule where
  name : String
  requires : String
  deriving DecidableEq, Repr

namespace RequireReferencedRule

/-- The words of a mention. -/
def mentionWords : List (List Char) := ["eip".toList, "erc".toList]

/-- The numbers that a header lists. -/
def listed (field : Field) : List Nat :=
  (field.items ",").filterMap fun (text, _) => if text = "" then none else decimalNat? text.toList

/-- What the rule finds. -/
def check (rule : RequireReferencedRule) (context : Context) : Finding (List Snippet) :=
  match context.preamble.find? rule.name with
  | none => .ok []
  | some field =>
    let required := ((context.preamble.find? rule.requires).map listed).getD []
    let missing := (mentionsOf mentionWords field.value).filter fun mention =>
      !required.contains mention.number
    let marks : List Mark := missing.map fun mention =>
      { range := mention.bytesIn field, label := s!"not listed in `{rule.requires}`" }
    marksFinding context field
      s!"proposals mentioned in preamble header `{rule.name}` must be listed in `{rule.requires}`"
      marks [.help s!"add the proposal numbers to preamble header `{rule.requires}`"]

end RequireReferencedRule

/-- A link to a proposal whose text mentions a proposal mentions the same one. -/
structure LinkTextRule where
  filePrefix : String
  suffix : String
  deriving DecidableEq, Repr

namespace LinkTextRule

/-- The finding about a link, if its text mentions another proposal. -/
def finding? (rule : LinkTextRule) (context : Context) (node : Node) (destination : String) :
    Finding (List Snippet) :=
  match linkedNumber? rule.filePrefix rule.suffix destination with
  | none => .ok []
  | some number =>
    let others := (mentions rule.filePrefix (context.body.textOf node)).filter (·.number ≠ number)
    match others, node.lines with
    | other :: _, some (line, _) => do
      let expected := canonicalReference rule.filePrefix number
      let excerpt ← context.nodeExcerpt node line s!"links to `{expected}`"
      let mentioned := String.ofList other.text
      return [.about s!"link text `{mentioned}` does not match destination `{destination}`" excerpt
        [.help s!"use `[{expected}]({destination})` or change the destination"]]
    | _, _ => .ok []

/-- What the rule finds. -/
def check (rule : LinkTextRule) (context : Context) : Finding (List Snippet) := do
  let found ← context.body.links.mapM fun node =>
    rule.finding? context node (node.destination?.getD "")
  return found.flatten

end LinkTextRule

end ProposalCheck

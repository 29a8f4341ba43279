import ProposalCheck.Rule.Pattern
import ProposalCheck.Web.Address

/-!
# Rules about links and addresses

Links and images of a proposal stay inside the collection of proposals; where the outside is meant, a
header holds a full web address.

## Main definitions

* `RelativeLinkRule`: destinations of links and images
* `AddressRule`: a web address in a header
-/

namespace ProposalCheck

/-- Destinations are relative, but for those in which one of some patterns is found. -/
structure RelativeLinkRule where
  exceptions : List String
  deriving DecidableEq, Repr

namespace RelativeLinkRule

/-- Does `://` occur in a text? -/
def hasScheme : List Char → Bool
  | [] => false
  | c :: rest => (dropStart? "://".toList (c :: rest)).isSome || hasScheme rest

/-- Does a destination start at a root, or at another place than this document? -/
def isAbsolute (destination : String) : Bool :=
  destination.toList.head? = some '/' || hasScheme destination.toList

/-- The finding about one destination. `isExcepted` tells which destinations are exempt. -/
def finding (isExcepted : String → Bool) (context : Context) (node : Node) :
    Finding (List Snippet) :=
  let destination := node.destination?.getD ""
  if !isAbsolute destination || isExcepted destination then .ok []
  else match node.lines with
    | none => .ok []
    | some (line, _) => do
      let excerpt ← context.nodeExcerpt node line "used here"
      return [.about "non-relative link or image" excerpt
        [.help "use a path relative to this document, like `./eip-1.md`"]]

/-- What the rule finds, with the destinations that are exempt. -/
def checkWith (isExcepted : String → Bool) (context : Context) : Finding (List Snippet) := do
  let nodes := context.body.all.filter fun node => Body.isLink node || Body.isImage node
  return (← nodes.mapM (finding isExcepted context)).flatten

/-- What the rule finds. -/
def check (rule : RelativeLinkRule) (context : Context) : Finding (List Snippet) :=
  let patterns := rule.exceptions.filterMap fun written => (Pattern.parse {} written).toOption
  checkWith (fun destination => patterns.any (·.isFoundIn destination)) context

end RelativeLinkRule

/-- A header holds a full web address. -/
structure AddressRule where
  name : String
  deriving DecidableEq, Repr

namespace AddressRule

/-- The schemes of the web. -/
def webSchemes : List String := ["http", "https"]

/-- Is a text a full web address, without blanks? A host name that has no readable form is an error. -/
def isWebAddress (text : String) : Except LabelProblem Bool :=
  if text = "" || text.toList.any isBlank then .ok false
  else match WebAddress.ofText text with
    | .error _ => .ok false
    | .ok address =>
      if webSchemes.contains (String.ofList address.scheme) then
        address.hostText.map fun host => !host.isEmpty
      else .ok false

/-- What the rule finds. -/
def check (rule : AddressRule) (context : Context) : Finding (List Snippet) :=
  match context.preamble.find? rule.name with
  | none => .ok []
  | some field =>
    match isWebAddress field.trimmed with
    | .error problem => .error (.hostName problem)
    | .ok true => .ok []
    | .ok false => valueFinding context field s!"preamble header `{rule.name}` is not a valid URL"
      "not an absolute http(s) URL"

end AddressRule

end ProposalCheck

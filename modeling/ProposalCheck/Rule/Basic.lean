import ProposalCheck.Rule.Comment
import ProposalCheck.Rule.Embedded
import ProposalCheck.Rule.Header
import ProposalCheck.Rule.Link
import ProposalCheck.Rule.Section

/-!
# Rules

A rule looks at one document and finds defects. Most rules need nothing but the document; those that
look at other proposals ask for them. Every kind of rule has a name.

## Main definitions

* `Rule`: a rule of any kind
* `Rule.kind`: the name of its kind
* `Rule.check`: what it finds in a document
-/

namespace ProposalCheck

/-- A rule of any kind. -/
inductive Rule where
  | author (rule : AuthorRule)
  | date (rule : DateRule)
  | fileName (rule : FileNameRule)
  | length (rule : LengthRule)
  | list (rule : ListRule)
  | noDuplicates (rule : NoDuplicatesRule)
  | oneOf (rule : OneOfRule)
  | order (rule : OrderRule)
  | valueReference (rule : ValueReferenceRule)
  | valuePattern (rule : ValuePatternRule)
  | requireReferenced (rule : RequireReferencedRule)
  | required (rule : RequiredRule)
  | requiredIf (rule : RequiredIfRule)
  | requiresStatus (rule : RequiresStatusRule)
  | trim (rule : TrimRule)
  | uint (rule : UintRule)
  | uintList (rule : UintListRule)
  | address (rule : AddressRule)
  | headingSpace (rule : HeadingSpaceRule)
  | comment (rule : CommentRule)
  | embeddedJson (rule : EmbeddedJsonRule)
  | linkFirst (rule : LinkFirstRule)
  | linkStatus (rule : LinkStatusRule)
  | linkText (rule : LinkTextRule)
  | bodyPattern (rule : BodyPatternRule)
  | relativeLink (rule : RelativeLinkRule)
  | sectionOrder (rule : SectionOrderRule)
  | sectionRequired (rule : SectionRequiredRule)
  deriving DecidableEq, Repr

namespace Rule

/-- The name of the kind of a rule. -/
def kind : Rule → String
  | .author _ => "preamble-author"
  | .date _ => "preamble-date"
  | .fileName _ => "preamble-file-name"
  | .length _ => "preamble-length"
  | .list _ => "preamble-list"
  | .noDuplicates _ => "preamble-no-duplicates"
  | .oneOf _ => "preamble-one-of"
  | .order _ => "preamble-order"
  | .valueReference _ => "preamble-proposal-ref"
  | .valuePattern _ => "preamble-regex"
  | .requireReferenced _ => "preamble-require-referenced"
  | .required _ => "preamble-required"
  | .requiredIf _ => "preamble-required-if-eq"
  | .requiresStatus _ => "preamble-requires-status"
  | .trim _ => "preamble-trim"
  | .uint _ => "preamble-uint"
  | .uintList _ => "preamble-uint-list"
  | .address _ => "preamble-url"
  | .headingSpace _ => "markdown-headings-space"
  | .comment _ => "markdown-html-comments"
  | .embeddedJson _ => "markdown-json-schema"
  | .linkFirst _ => "markdown-link-first"
  | .linkStatus _ => "markdown-link-status"
  | .linkText _ => "markdown-proposal-ref"
  | .bodyPattern _ => "markdown-regex"
  | .relativeLink _ => "markdown-relative-links"
  | .sectionOrder _ => "markdown-section-order"
  | .sectionRequired _ => "markdown-section-required"

/-- What a rule finds that needs nothing but the document. -/
def ofFinding {α : Type} (found : Finding α) : Check α := ExceptT.mk (pure found)

/-- What a rule finds in a document. -/
def check (rule : Rule) (context : Context) : Check (List Snippet) :=
  match rule with
  | .author rule => ofFinding (rule.check context)
  | .date rule => ofFinding (rule.check context)
  | .fileName rule => ofFinding (rule.check context)
  | .length rule => ofFinding (rule.check context)
  | .list rule => ofFinding (rule.check context)
  | .noDuplicates rule => ofFinding (rule.check context)
  | .oneOf rule => ofFinding (rule.check context)
  | .order rule => ofFinding (rule.check context)
  | .valueReference rule => rule.check context
  | .valuePattern rule => ofFinding (rule.check context)
  | .requireReferenced rule => ofFinding (rule.check context)
  | .required rule => ofFinding (rule.check context)
  | .requiredIf rule => ofFinding (rule.check context)
  | .requiresStatus rule => rule.check context
  | .trim rule => ofFinding (rule.check context)
  | .uint rule => ofFinding (rule.check context)
  | .uintList rule => ofFinding (rule.check context)
  | .address rule => ofFinding (rule.check context)
  | .headingSpace rule => ofFinding (rule.check context)
  | .comment rule => ofFinding (rule.check context)
  | .embeddedJson rule => ofFinding (rule.check context)
  | .linkFirst rule => ofFinding (rule.check context)
  | .linkStatus rule => rule.check context
  | .linkText rule => ofFinding (rule.check context)
  | .bodyPattern rule => ofFinding (rule.check context)
  | .relativeLink rule => ofFinding (rule.check context)
  | .sectionOrder rule => ofFinding (rule.check context)
  | .sectionRequired rule => ofFinding (rule.check context)

end Rule

end ProposalCheck

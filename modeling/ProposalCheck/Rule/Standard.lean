import ProposalCheck.Rule.Basic
import ProposalCheck.Schema.Citation

/-!
# The standard rules

The rules for proposals of one collection, each with the name by which it is addressed, in the order in
which they run.

## Main definitions

* `standardFlow`: the statuses of a proposal from early to late
* `standardRules`: the standard rules
-/

namespace ProposalCheck

/-- The statuses of a proposal; those of one rank are equally early. -/
def standardFlow : List (List String) :=
  [["Draft", "Stagnant"], ["Review"], ["Last Call"], ["Final"]]

/-- The headers of a proposal in order. -/
def standardHeaders : List String :=
  ["eip", "title", "description", "author", "discussions-to", "status", "last-call-deadline", "type",
    "category", "created", "requires", "withdrawal-reason"]

/-- The sections of a proposal in order. -/
def standardSections : List String :=
  ["Abstract", "Motivation", "Specification", "Rationale", "Backwards Compatibility", "Test Cases",
    "Reference Implementation", "Security Considerations", "Copyright"]

/-- Destinations outside of the collection that do not change. -/
def stableDestinations : List String :=
  ["^https://(www\\.)?github\\.com/ethereum/consensus-specs/blob/[a-f0-9]\x7b40\x7d/.+$",
    "^https://(www\\.)?github\\.com/ethereum/devp2p/blob/[0-9a-f]\x7b40\x7d/.+$",
    "^https://(www\\.)?w3\\.org/TR/[0-9]\x7b4\x7d/.+$",
    "^https://www\\.rfc-editor\\.org/rfc/.+$",
    "^https://doi\\.org/.+$"]

/-- A header does not use a word that is reserved for proposals that were accepted. -/
def reservedWordRule (name : String) : Rule :=
  .valuePattern
    { name
      mode := .excludes
      pattern := "(?i)standar\\w*\\b"
      message := s!"preamble header `{name}` should not contain `standard` (or similar words.)" }

/-- The rules about headers. -/
def standardHeaderRules : List (String × Rule) :=
  [("preamble-no-dup", .noDuplicates ⟨⟩),
    ("preamble-trim", .trim ⟨⟩),
    ("preamble-order", .order ⟨standardHeaders⟩),
    ("preamble-req", .required ⟨["eip", "title", "description", "author", "discussions-to", "status",
      "type", "created"]⟩),
    ("preamble-eip", .uint ⟨"eip"⟩),
    ("preamble-file-name", .fileName ⟨"eip", "eip-", ".md"⟩),
    ("preamble-len-title", .length ⟨"title", some 2, some 44⟩),
    ("preamble-len-description", .length ⟨"description", some 2, some 140⟩),
    ("preamble-re-title", reservedWordRule "title"),
    ("preamble-re-description", reservedWordRule "description"),
    ("preamble-list-author", .list ⟨"author"⟩),
    ("preamble-author", .author ⟨"author"⟩),
    ("preamble-refs-title", .valueReference ⟨"title", "eip-", ".md"⟩),
    ("preamble-refs-description", .valueReference ⟨"description", "eip-", ".md"⟩),
    ("preamble-requires-ref-title", .requireReferenced ⟨"title", "requires"⟩),
    ("preamble-requires-ref-description", .requireReferenced ⟨"description", "requires"⟩),
    ("preamble-discussions-to", .address ⟨"discussions-to"⟩),
    ("preamble-status", .oneOf ⟨"status", ["Draft", "Review", "Last Call", "Final", "Stagnant",
      "Withdrawn", "Living"]⟩),
    ("preamble-type", .oneOf ⟨"type", ["Standards Track", "Meta", "Informational"]⟩),
    ("preamble-category", .oneOf ⟨"category", ["Core", "Networking", "Interface", "ERC"]⟩),
    ("preamble-date-created", .date ⟨"created"⟩),
    ("preamble-date-last-call-deadline", .date ⟨"last-call-deadline"⟩),
    ("preamble-requires", .uintList ⟨"requires"⟩),
    ("preamble-req-last-call-deadline",
      .requiredIf ⟨"status", "Last Call", "last-call-deadline"⟩),
    ("preamble-req-category", .requiredIf ⟨"type", "Standards Track", "category"⟩),
    ("preamble-req-withdrawal-reason", .requiredIf ⟨"status", "Withdrawn", "withdrawal-reason"⟩),
    ("preamble-requires-status", .requiresStatus ⟨"requires", "status", standardFlow, "eip-", ".md"⟩)]

/-- The rules about the body. -/
def standardBodyRules : List (String × Rule) :=
  [("markdown-link-status", .linkStatus ⟨"status", standardFlow, "eip-", ".md"⟩),
    ("markdown-json-cite", .embeddedJson ⟨"csl-json", citationSchema, [],
      "see https://proplint.readthedocs.io/schemas/citation.json"⟩),
    ("markdown-order-section", .sectionOrder ⟨standardSections⟩),
    ("markdown-req-section", .sectionRequired ⟨["Abstract", "Specification", "Rationale",
      "Security Considerations", "Copyright"]⟩),
    ("markdown-re-eip-dash", .bodyPattern ⟨.excludes, "(?i)\\beip[\\s]*[0-9]+",
      "proposals must be referenced with the form `EIP-N` (not `EIPN` or `EIP N`)"⟩),
    ("markdown-html-comments", .comment ⟨"status", ["Draft", "Stagnant"]⟩),
    ("markdown-headings-space", .headingSpace ⟨⟩),
    ("markdown-refs", .linkText ⟨"eip-", ".md"⟩),
    ("markdown-rel-links", .relativeLink ⟨stableDestinations⟩),
    ("markdown-link-first", .linkFirst ⟨"(?i)(?:eip|erc)-[0-9]+"⟩)]

/-- The standard rules with their names. -/
def standardRules : List (String × Rule) := standardHeaderRules ++ standardBodyRules

end ProposalCheck

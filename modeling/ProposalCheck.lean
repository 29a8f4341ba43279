import ProposalCheck.Fetch.Shelf
import ProposalCheck.Fetch.Web
import ProposalCheck.Main
import ProposalCheck.Proofs.Lint.Excerpt
import ProposalCheck.Proofs.Lint.Softening
import ProposalCheck.Proofs.Json.Literal
import ProposalCheck.Proofs.Json.Form
import ProposalCheck.Proofs.Json.Part
import ProposalCheck.Proofs.Yaml.Quoted
import ProposalCheck.Proofs.Yaml.Layout
import ProposalCheck.Proofs.Yaml.Tokens
import ProposalCheck.Proofs.Yaml.Nodes
import ProposalCheck.Proofs.Json.Extent
import ProposalCheck.Proofs.Json.Locator
import ProposalCheck.Proofs.Rule.Fence
import ProposalCheck.Proofs.Rule.Embedded
import ProposalCheck.Proofs.Markdown.Rows
import ProposalCheck.Proofs.Markdown.Tree
import ProposalCheck.Proofs.Document.Body
import ProposalCheck.Proofs.Markdown.Emphasis
import ProposalCheck.Proofs.Markdown.Inline
import ProposalCheck.Proofs.Markdown.Block
import ProposalCheck.Proofs.Markdown.Content
import ProposalCheck.Proofs.Document.Load
import ProposalCheck.Proofs.Rule.Confined
import ProposalCheck.Proofs.Source.Slice
import ProposalCheck.Proofs.Document.Preamble
import ProposalCheck.Proofs.Document.Items
import ProposalCheck.Proofs.Lint.Query
import ProposalCheck.Proofs.Lint.Line
import ProposalCheck.Proofs.Reference.Flow
import ProposalCheck.Proofs.Rule.Status
import ProposalCheck.Proofs.Diagnostic.Place
import ProposalCheck.Proofs.Document.Spans
import ProposalCheck.Proofs.Rule.Valid
import ProposalCheck.Proofs.Rule.First
import ProposalCheck.Proofs.Fetch.Failure
import ProposalCheck.Proofs.Lint.Options
import ProposalCheck.Proofs.Text.WellFormed
import ProposalCheck.Proofs.Document.Encoded
import ProposalCheck.Proofs.Document.Placed
import ProposalCheck.Proofs.Document.Order
import ProposalCheck.Proofs.Document.Numbering
import ProposalCheck.Proofs.Document.Cursor
import ProposalCheck.Proofs.Document.Read
import ProposalCheck.Proofs.Lint.Shown
import ProposalCheck.Proofs.Reference.Linked
import ProposalCheck.Proofs.Rule.LinkStatus
import ProposalCheck.Proofs.Diagnostic.Locate
import ProposalCheck.Proofs.Diagnostic.Fold
import ProposalCheck.Proofs.Diagnostic.Gutter
import ProposalCheck.Proofs.Diagnostic.Column
import ProposalCheck.Proofs.Rule.LinkFirst
import ProposalCheck.Proofs.Rule.Comment
import ProposalCheck.Proofs.Rule.Order
import ProposalCheck.Proofs.Rule.Ascending
import ProposalCheck.Proofs.Rule.Advice
import ProposalCheck.Proofs.Source.Position
import ProposalCheck.Proofs.Report.Chain
import ProposalCheck.Proofs.Lint.Severity
import ProposalCheck.Proofs.Rule.Address
import ProposalCheck.Proofs.Source.Partition
import ProposalCheck.Proofs.Document.Tiling
import ProposalCheck.Proofs.Json.Grammar
import ProposalCheck.Proofs.Reference.Path
import ProposalCheck.Proofs.Fetch.Shelf

import ProposalCheck.Json.Locator
import ProposalCheck.Lint.Context
import ProposalCheck.Schema.Prepare

/-!
# The rule about embedded JSON

Fenced blocks of a given language hold JSON that keeps to a schema. A violation is shown at the part of
the block that causes it, if the text tells where that is, and otherwise at the whole block.

## Main definitions

* `Fence`: a fenced block, and where its content stands in the document
* `Fence.offset?`: the byte of the document for a byte of the content
* `EmbeddedJsonRule`: fenced blocks of one language
-/

namespace ProposalCheck

/-- Where a line of the content of a block starts: in the content and in the document. -/
structure ContentLine where
  inContent : Nat
  inDocument : Nat
  deriving DecidableEq, Repr

/-- A fenced block with the numbers of its first and its last line. -/
structure Fence where
  first : Nat
  last : Nat
  content : String
  lines : List ContentLine
  deriving DecidableEq, Repr

namespace Fence

/-- How many characters stand in front of `text` at the end of `row`; none if it does not end in
`text`. -/
def indentOf (row text : List Char) : Nat :=
  if text.isSuffixOf row then row.length - text.length else 0

/-- Places lines of content that start at byte `offset` of the content; the first is line `line` of the
document. Lines past the end of the document are left out. -/
def placeLines (lines : Lines) (line offset : Nat) : List (List Char) → List ContentLine
  | [] => []
  | text :: rest =>
    match lines.row line with
    | .error _ => []
    | .ok row =>
      let shown := row.text.toList
      let start := row.start + byteLength (shown.take (indentOf shown text))
      ⟨offset, start⟩ :: placeLines lines (line + 1) (offset + byteLength text + 1) rest

/-- The fence of a node that has lines. -/
def ofNode? (lines : Lines) (node : Node) : Option Fence :=
  node.lines.map fun (first, last) =>
    { first, last
      content := node.content
      lines := placeLines lines (first + 1) 0 (splitWhere (· = '\n') node.content.toList) }

/-- The byte of the document for a byte of the content. -/
def offset? (fence : Fence) (offset : Nat) : Option Nat :=
  (fence.lines.reverse.find? (·.inContent ≤ offset)).map fun line =>
    line.inDocument + (offset - line.inContent)

/-- The bytes of the document for bytes of the content. -/
def span? (fence : Fence) (span : Span) : Option Span := do
  return ⟨← fence.offset? span.start, ← fence.offset? span.stop⟩

end Fence

/-- The wording for a schema that cannot be used. -/
def SchemaProblem.asRuleError : SchemaProblem → RuleError
  | .notJson error => .unusable s!"schema is not valid JSON: {error.message}"
  | .invalid message => .unusable s!"invalid schema: {message}"
  | .unresolvable reason => .unusable s!"unresolvable reference: {reason}"
  | .fault cause => .schema cause

/-- Fenced blocks of a language hold JSON that keeps to a schema. Further schemas are known by their
addresses. -/
structure EmbeddedJsonRule where
  language : String
  schema : String
  additional : List (String × String)
  help : String
  deriving DecidableEq, Repr

namespace EmbeddedJsonRule

/-- Is a node a block of the language? -/
def isMatch (rule : EmbeddedJsonRule) (node : Node) : Bool :=
  (words node.info).head? = some rule.language

/-- A finding about a fence, with a mark on some bytes of the document or on the whole fence. -/
def finding (rule : EmbeddedJsonRule) (context : Context) (fence : Fence) (span : Option Span)
    (label : String) : Finding Snippet := do
  let (last, marked) ← match span with
    | some span => do
      let last ← PositionError.asRuleError (context.lines.lineOf span.stop)
      pure (last, span)
    | none => do
      let start ← PositionError.asRuleError (context.lines.lineSpan fence.first)
      let stop ← PositionError.asRuleError (context.lines.lineSpan fence.last)
      pure (fence.last, ⟨start.start, stop.stop⟩)
  let fold := context.settings.foldThreshold < ((last : Int) - fence.first + 1)
  let range ← PositionError.asRuleError (context.linesRange fence.first marked.start marked.stop)
  let mark ← Context.checkMark range label
  let excerpt ← context.linesExcerpt fence.first last [mark] fold
  let title := s!"code block of type `{rule.language}` does not conform to required schema"
  return .about title excerpt (if rule.help = "" then [] else [.help rule.help])

/-- The label for a content that is not JSON. -/
def decodeLabel (error : Json.DecodeError) : String :=
  s!"{error.problem.message} (line {error.line}, column {error.column})"

/-- What the rule finds in one fence. -/
def fenceFindings (rule : EmbeddedJsonRule) (context : Context) (validator : Validator)
    (fence : Fence) : Finding (List Snippet) :=
  match Json.decode fence.content with
  | .error error => match error.problem with
    | .tooManyDigits count => .error (.schema (.tooManyDigits count))
    | _ => do return [← rule.finding context fence none (decodeLabel error)]
  | .ok value =>
    match validator value with
    | .error problem => .error problem.asRuleError
    | .ok violations =>
      let locator := Locator.ofText? fence.content
      (Violation.sort violations).mapM fun violation =>
        let span := locator.bind fun locator => (locator.span? violation.path).bind fence.span?
        rule.finding context fence span violation.message

/-- What the rule finds with a validator, which is needed only if there are fences of the language. -/
def checkWith (prepare : Except SchemaProblem Validator) (rule : EmbeddedJsonRule)
    (context : Context) : Finding (List Snippet) :=
  let fences := (context.body.fences.filter rule.isMatch).filterMap (Fence.ofNode? context.lines)
  if fences.isEmpty then .ok []
  else match prepare with
    | .error problem => .error problem.asRuleError
    | .ok validator => do return (← fences.mapM (rule.fenceFindings context validator)).flatten

/-- What the rule finds. -/
def check (rule : EmbeddedJsonRule) (context : Context) : Finding (List Snippet) :=
  rule.checkWith (Schema.prepare rule.schema rule.additional) context

end EmbeddedJsonRule

end ProposalCheck

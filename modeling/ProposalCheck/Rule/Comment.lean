import ProposalCheck.Rule.Status

/-!
# The rule about comments

Comments in the body are notes of the authors that readers do not see. While a proposal is at an early
stage they are worth a warning only.

## Main definitions

* `commentsFrom`: the comments of a text
* `CommentRule`: comments in the body
-/

namespace ProposalCheck

/-- How many characters follow up to and including the first `-->`, or up to the end. -/
def commentLength : List Char → Nat
  | '-' :: '-' :: '>' :: _ => 3
  | [] => 0
  | _ :: rest => commentLength rest + 1

/-- The comments of a text, in characters from `place` on. The first argument counts the characters of
a comment still to be passed. -/
def commentsFrom (skip place : Nat) : List Char → List Span
  | [] => []
  | c :: rest =>
    if skip ≠ 0 then commentsFrom (skip - 1) (place + 1) rest
    else match c :: rest with
      | '<' :: '!' :: '-' :: '-' :: inner =>
        let size := 4 + commentLength inner
        ⟨place, place + size⟩ :: commentsFrom (size - 1) (place + 1) rest
      | _ => commentsFrom 0 (place + 1) rest

/-- There are no comments in the body; while a header has one of some values they are only worth a
warning. -/
structure CommentRule where
  name : String
  warnFor : List String
  deriving DecidableEq, Repr

namespace CommentRule

/-- The comments in a node, in bytes of the document. -/
def commentsOf (context : Context) (node : Node) : Except PositionError (List Span) :=
  match node.kind, node.span with
  | .htmlBlock, some span | .html, some span => do
    let text ← context.lines.slice span.start span.stop
    return (commentsFrom 0 0 text.toList).map (bytesOf span.start text)
  | _, _ => .ok []

/-- The severity of all findings in a document. -/
def severity (rule : CommentRule) (context : Context) : Option Severity :=
  match context.preamble.find? rule.name with
  | some field => if rule.warnFor.contains field.trimmed then some .warning else none
  | none => none

/-- The finding about one comment. -/
def finding (rule : CommentRule) (context : Context) (span : Span) : Finding Snippet := do
  let severity := rule.severity context
  let first ← PositionError.asRuleError (context.lines.lineOf span.start)
  let last ← PositionError.asRuleError (context.lines.lineOf span.stop)
  let range ← PositionError.asRuleError (context.linesRange first span.start span.stop)
  let mark ← Context.checkMark range "remove this comment" severity
  let fold := context.settings.foldThreshold < (last - first + 1 : Int)
  let label := s!"HTML comments are only allowed while `{rule.name}` is one of: "
    ++ listStatuses rule.warnFor
  return {
    title := { label, severity }
    excerpts := [← context.linesExcerpt first last [mark] fold] }

/-- What the rule finds. -/
def check (rule : CommentRule) (context : Context) : Finding (List Snippet) := do
  let found ← PositionError.asRuleError (context.body.all.mapM (commentsOf context))
  found.flatten.mapM (rule.finding context)

end CommentRule

end ProposalCheck

import ProposalCheck.Pattern.Parse
import ProposalCheck.Rule.Value

/-!
# Rules that search for patterns

A pattern is either required somewhere in a text or prohibited everywhere in it. The rules are stated
over the matches of a pattern in a text, however they are found.

## Main definitions

* `PatternMode`: required or prohibited
* `ValuePatternRule`: a pattern in the value of a field
* `BodyPatternRule`: a pattern in the body
* `LinkFirstRule`: what matches a pattern is linked before it is mentioned otherwise
-/

namespace ProposalCheck

/-- Must a pattern match somewhere, or nowhere? -/
inductive PatternMode where
  | includes
  | excludes
  deriving DecidableEq, Repr

namespace PatternMode

/-- The name of a mode. -/
def name : PatternMode → String
  | .includes => "includes"
  | .excludes => "excludes"

/-- The mode of a name. -/
def ofName? (word : String) : Option PatternMode := [includes, excludes].find? (·.name = word)

end PatternMode

/-- Finds the pieces of a text that match, from left to right, in characters. -/
abbrev Search := String → List Span

/-- The search for a written pattern; what is no pattern matches nowhere. -/
def Search.ofText (modes : PatternModes) (written : String) : Search := fun text =>
  match Pattern.parse modes written with
  | .ok pattern => (pattern.findAll text).map (·.span)
  | .error _ => []

/-- The bytes that some characters of a text take, where the text starts at a byte. -/
def bytesOf (start : Nat) (text : String) (piece : Span) : Span :=
  let chars := text.toList
  let first := start + byteLength (chars.take piece.start)
  ⟨first, first + byteLength ((chars.drop piece.start).take (piece.stop - piece.start))⟩

/-- The note that names the pattern. -/
def patternNote (pattern : String) : Note := .info s!"the pattern in question: `{pattern}`"

/-- A pattern in the value of a field. -/
structure ValuePatternRule where
  name : String
  mode : PatternMode
  pattern : String
  message : String
  deriving DecidableEq, Repr

namespace ValuePatternRule

/-- What the rule finds with a search. -/
def checkWith (search : Search) (rule : ValuePatternRule) (context : Context) :
    Finding (List Snippet) :=
  match context.preamble.find? rule.name with
  | none => .ok []
  | some field =>
    let found := search field.value
    let marks : List Mark :=
      match rule.mode with
      | .includes =>
        if found.isEmpty then
          [{ range := field.valueRange, label := "required pattern was not matched" }]
        else []
      | .excludes => found.map fun piece =>
        { range := bytesOf field.valueOffset field.value piece
          label := "prohibited pattern was matched" }
    marksFinding context field rule.message marks [patternNote rule.pattern]

/-- What the rule finds. -/
def check (rule : ValuePatternRule) (context : Context) : Finding (List Snippet) :=
  rule.checkWith (.ofText {} rule.pattern) context

end ValuePatternRule

/-- A pattern in the body, in which `^` and `$` match at every line. -/
structure BodyPatternRule where
  mode : PatternMode
  pattern : String
  message : String
  deriving DecidableEq, Repr

namespace BodyPatternRule

/-- The finding about one prohibited match. -/
def finding (rule : BodyPatternRule) (context : Context) (span : Span) : Finding Snippet := do
  let first ← PositionError.asRuleError (context.lines.lineOf span.start)
  let last ← PositionError.asRuleError (context.lines.lineOf span.stop)
  let range ← PositionError.asRuleError (context.linesRange first span.start span.stop)
  let mark ← Context.checkMark range "prohibited pattern was matched"
  return .about rule.message (← context.linesExcerpt first last [mark] false)
    [patternNote rule.pattern]

/-- What the rule finds with a search. -/
def checkWith (search : Search) (rule : BodyPatternRule) (context : Context) :
    Finding (List Snippet) :=
  let text := context.document.bodySource
  match rule.mode with
  | .includes =>
    if (search text).isEmpty then
      .ok [{ title := { label := rule.message }, footer := [patternNote rule.pattern] }]
    else .ok []
  | .excludes =>
    match context.lines.lineSpan context.body.firstLine with
    | .error _ => .ok []
    | .ok line => (search text).mapM fun piece =>
      rule.finding context (bytesOf line.start text piece)

/-- What the rule finds. -/
def check (rule : BodyPatternRule) (context : Context) : Finding (List Snippet) :=
  rule.checkWith (.ofText { multiline := true } rule.pattern) context

end BodyPatternRule

/-- What matches a pattern is the text of a link before it is mentioned as plain text. -/
structure LinkFirstRule where
  pattern : String
  deriving DecidableEq, Repr

namespace LinkFirstRule

/-- A piece of a text. -/
def pieceText (text : String) (piece : Span) : String :=
  String.ofList ((text.toList.drop piece.start).take (piece.stop - piece.start))

/-- Is a node within a link, a heading or an image? The first argument bounds the steps upwards. -/
def isCovered (body : Body) : Nat → Option Nat → Bool
  | 0, _ => false
  | _, none => false
  | fuel + 1, some parent =>
    match body.nodes[parent]? with
    | none => false
    | some node => match node.kind with
      | .link _ | .image _ | .heading _ => true
      | _ => isCovered body fuel node.parent

/-- The mentions that come before a link, each with its node. `linked` holds the links so far, in upper
case. -/
def unlinked (search : Search) (body : Body) (linked : List String) :
    List Node → List (Node × Span)
  | [] => []
  | node :: rest =>
    match node.kind with
    | .link _ =>
      let text := body.textOf node
      unlinked search body
        (linked ++ (search text).map fun piece => upperCase (pieceText text piece)) rest
    | .text =>
      let found := if isCovered body body.nodes.size node.parent then [] else
        (search node.content).filter fun piece =>
          !linked.contains (upperCase (pieceText node.content piece))
      found.map (node, ·) ++ unlinked search body linked rest
    | _ => unlinked search body linked rest

/-- The finding about one mention. -/
def finding (rule : LinkFirstRule) (context : Context) (node : Node) (line : Nat) (piece : Span) :
    Finding Snippet := do
  let range ← match node.span with
    | some span =>
      let bytes := bytesOf span.start node.content piece
      PositionError.asRuleError (context.lineRange line bytes.start bytes.stop)
    | none => context.nodeRange node line
  let mark ← Context.checkMark range s!"`{pieceText node.content piece}` is not linked yet"
  return .about "the first match of the given pattern must be a link"
    (← context.lineExcerpt line [mark]) [patternNote rule.pattern]

/-- What the rule finds with a search. -/
def checkWith (search : Search) (rule : LinkFirstRule) (context : Context) :
    Finding (List Snippet) := do
  let found ← (unlinked search context.body [] context.body.all).mapM fun (node, piece) =>
    match node.lines with
    | none => .ok []
    | some (line, _) => return [← rule.finding context node line piece]
  return found.flatten

/-- What the rule finds. -/
def check (rule : LinkFirstRule) (context : Context) : Finding (List Snippet) :=
  rule.checkWith (.ofText {} rule.pattern) context

end LinkFirstRule

end ProposalCheck

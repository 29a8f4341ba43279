import ProposalCheck.Rule.Value

/-!
# Rules about the sections of the body

The headings of level two divide the body into sections, which are known by the text of their headings
without the blanks around it.

## Main definitions

* `SectionHeading`: a heading of level two that has a line
* `SectionOrderRule`: the order of the sections, and sections of no known name
* `SectionRequiredRule`: sections that must be there
* `HeadingSpaceRule`: the marks of a heading are followed by a blank
-/

namespace ProposalCheck

/-- A heading of level two with its name and its line. -/
structure SectionHeading where
  name : String
  node : Node
  line : Nat
  deriving DecidableEq, Repr

namespace SectionHeading

/-- The names of the sections of a body. -/
def names (body : Body) : List String :=
  (body.headings (some 2)).map fun node => trim (body.textOf node)

/-- The headings of the sections that have a line, in document order. -/
def all (body : Body) : List SectionHeading :=
  (body.headings (some 2)).filterMap fun node => do
    let (line, _) ← node.lines
    return ⟨trim (body.textOf node), node, line⟩

/-- The first heading with a name. -/
def first? (headings : List SectionHeading) (name : String) : Option SectionHeading :=
  headings.find? (·.name = name)

/-- An excerpt of the line of a heading with a mark on the heading. -/
def excerpt (context : Context) (label : String) (heading : SectionHeading) : Finding Excerpt :=
  context.nodeExcerpt heading.node heading.line label

end SectionHeading

/-- The sections there may be, in the order in which they come. -/
structure SectionOrderRule where
  sections : List String
  deriving DecidableEq, Repr

namespace SectionOrderRule

/-- The headings that stand above one that they should follow, each with the name of the lowest of
these. Headings are given in the order in which they should stand; `lowest` is the line and the name of
the lowest so far. -/
def outOfOrder (lowest : Nat × String) : List SectionHeading → List (SectionHeading × String)
  | [] => []
  | heading :: rest =>
    if lowest.1 ≤ heading.line then outOfOrder (heading.line, heading.name) rest
    else (heading, lowest.2) :: outOfOrder lowest rest

/-- What the rule finds. -/
def check (rule : SectionOrderRule) (context : Context) : Finding (List Snippet) := do
  let headings := SectionHeading.all context.body
  let unknown := headings.filter fun heading => !rule.sections.contains heading.name
  let excerpts ← unknown.mapM (SectionHeading.excerpt context "unrecognized section")
  let extra : List Snippet :=
    if unknown.isEmpty then [] else [{ title := { label := "body has extra section(s)" }, excerpts }]
  let listed := rule.sections.filterMap (SectionHeading.first? headings)
  let misplaced ← (outOfOrder (0, "") listed).mapM fun (heading, before) => do
    let title := s!"section `{heading.name}` must come after `{before}`"
    return Snippet.about title (← heading.excerpt context "out of order")
  return extra ++ misplaced

end SectionOrderRule

/-- Sections that every document has. -/
structure SectionRequiredRule where
  sections : List String
  deriving DecidableEq, Repr

namespace SectionRequiredRule

/-- What the rule finds. -/
def check (rule : SectionRequiredRule) (context : Context) : Finding (List Snippet) :=
  let present := SectionHeading.names context.body
  let missing := rule.sections.filter (!present.contains ·)
  if missing.isEmpty then .ok []
  else
    let listed := joinWith ", " (missing.map fun name => s!"`{name}`")
    .ok [{ title := { label := s!"body is missing section(s): {listed}" } }]

end SectionRequiredRule

/-- The marks of a heading are followed by a blank. -/
structure HeadingSpaceRule where
  deriving DecidableEq, Repr

namespace HeadingSpaceRule

/-- The place of up to six marks after up to three spaces, if something else than a blank follows
them at once. -/
def unspacedMarks? (text : List Char) : Option Span :=
  let spaces := (text.takeWhile (· = ' ')).length
  let marks := ((text.drop spaces).takeWhile (· = '#')).length
  match text.drop (spaces + marks) with
  | [] => none
  | next :: _ =>
    if 3 < spaces ∨ marks = 0 ∨ 6 < marks ∨ isBlank next then none
    else some ⟨spaces, spaces + marks⟩

/-- The finding about one line. -/
def finding (context : Context) (line : Nat) : Finding (List Snippet) := do
  if context.body.isCodeLine line then return []
  let text ← PositionError.asRuleError (context.lines.line line)
  match unspacedMarks? text.toList with
  | none => return []
  | some range =>
    let mark : Mark := { range, label := "a space is required after the `#` markers" }
    return [.about "space missing in header" (← context.lineExcerpt line [mark])]

/-- What the rule finds. -/
def check (_ : HeadingSpaceRule) (context : Context) : Finding (List Snippet) := do
  let first := context.body.firstLine
  let lines := (List.range (context.lines.count + 1 - first)).map (first + ·)
  return (← lines.mapM (finding context)).flatten

end HeadingSpaceRule

end ProposalCheck

import ProposalCheck.Diagnostic.Render
import ProposalCheck.Validation.Shape

/-!
# Findings as data

Findings are exchanged with other programs as JSON: they are written with every member present and
read with defaults for what is missing. Members that are not known are passed over.

## Main definitions

* `Snippet.toJson`: a finding as data
* `Snippet.ofJson`: the finding that data describe, or all problems of the data
* `Snippet.formatted`: the text that comes with the data, or else the finding rendered again
-/

namespace ProposalCheck

/-- A text or `null`. -/
def Json.ofText? : Option String → Json
  | some s => .str s
  | none => .null

/-- A severity or `null`. -/
def Json.ofSeverity? : Option Severity → Json
  | some s => .str s.name
  | none => .null

/-- A natural number. -/
def Json.ofNat (n : Nat) : Json := .int n

namespace Span

/-- The two bounds. -/
def toJson (span : Span) : Json := .arr [.ofNat span.start, .ofNat span.stop]

end Span

namespace Note

/-- The members of a note. -/
def toJson (note : Note) : Json :=
  .obj [("id", .ofText? note.id), ("severity", .ofSeverity? note.severity),
    ("label", .str note.label)]

/-- Reads a note. -/
def ofJson : Json → Checked Note
  | .obj members =>
    let id := Shape.optional members "id" none (Shape.nullable Shape.text)
    let severity := Shape.optional members "severity" none
      (Shape.nullable (Shape.oneOf Severity.ofName?))
    let label := Shape.optional members "label" "" Shape.text
    (id.both (severity.both label)).map fun (id, severity, label) => { id, severity, label }
  | _ => .fail .modelType

end Note

namespace Mark

/-- The members of a mark. -/
def toJson (mark : Mark) : Json :=
  .obj [("range", mark.range.toJson), ("severity", .ofSeverity? mark.severity),
    ("label", .str mark.label)]

/-- Reads a mark; its range must be in order. -/
def ofJson : Json → Checked Mark
  | .obj members =>
    let range := Shape.required members "range" (Shape.pairOf Shape.integer Shape.integer)
    let severity := Shape.optional members "severity" none
      (Shape.nullable (Shape.oneOf Severity.ofName?))
    let label := Shape.optional members "label" "" Shape.text
    match range.both (severity.both label) with
    | .error issues => .error issues
    | .ok ((start, stop), severity, label) =>
      match checkRange start stop with
      | .ok range => .ok { range, severity, label }
      | .error problem => .fail (.rule problem.message)
  | _ => .fail .modelType

end Mark

namespace Excerpt

/-- The members of an excerpt. -/
def toJson (excerpt : Excerpt) : Json :=
  .obj [("origin", .ofText? excerpt.origin), ("line_start", .int excerpt.lineStart),
    ("source", .str excerpt.source), ("fold", .bool excerpt.fold),
    ("annotations", .arr (excerpt.marks.map Mark.toJson))]

/-- An excerpt all of whose marks lie inside it. -/
def checked (excerpt : Excerpt) : Checked Excerpt :=
  match excerpt.problem? with
  | some problem => .fail (.rule problem.message)
  | none => .ok excerpt

/-- Reads an excerpt; its marks must lie inside it. -/
def ofJson : Json → Checked Excerpt
  | .obj members =>
    let origin := Shape.optional members "origin" none (Shape.nullable Shape.text)
    let lineStart := Shape.required members "line_start" Shape.integer
    let source := Shape.required members "source" Shape.text
    let fold := Shape.optional members "fold" false Shape.truth
    let marks := Shape.optional members "annotations" [] (Shape.listOf Mark.ofJson)
    match origin.both (lineStart.both (source.both (fold.both marks))) with
    | .error issues => .error issues
    | .ok (origin, lineStart, source, fold, marks) =>
      checked { origin, lineStart, source, fold, marks }
  | _ => .fail .modelType

end Excerpt

namespace Snippet

/-- The members of a finding. -/
def toMembers (snippet : Snippet) : List (String × Json) :=
  [("title", snippet.title.toJson), ("footer", .arr (snippet.footer.map Note.toJson)),
    ("slices", .arr (snippet.excerpts.map Excerpt.toJson))]

/-- A finding as data. -/
def toJson (snippet : Snippet) : Json := .obj snippet.toMembers

/-- A finding as data, together with its text. -/
def toJsonFormatted (snippet : Snippet) : Json :=
  .obj (snippet.toMembers ++ [("formatted", .str snippet.render)])

/-- Reads a finding. -/
def ofJson : Json → Checked Snippet
  | .obj members =>
    let title := Shape.required members "title" Note.ofJson
    let footer := Shape.optional members "footer" [] (Shape.listOf Note.ofJson)
    let excerpts := Shape.optional members "slices" [] (Shape.listOf Excerpt.ofJson)
    (title.both (footer.both excerpts)).map fun (title, footer, excerpts) =>
      { title, footer, excerpts }
  | _ => .fail .modelType

/-- The text of a finding given as data: the text that comes with it, or else the finding rendered
again. -/
def formatted (data : Json) : Checked String :=
  match data.get? "formatted" with
  | some (.str text) => .ok text
  | _ => (ofJson data).map render

end Snippet

end ProposalCheck

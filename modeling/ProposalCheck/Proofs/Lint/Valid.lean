import ProposalCheck.Proofs.Document.Destination
import ProposalCheck.Proofs.Document.Items
import ProposalCheck.Proofs.Lint.Boundary
import ProposalCheck.Proofs.Lint.Line
import ProposalCheck.Rule.Header
import ProposalCheck.Rule.Pattern

/-!
# Valid findings

A finding is valid if every range that it marks lies within its excerpt and begins and ends between characters.
The ranges of fields, of values and of their items are valid on the line of the field, and so is what shows of a
span of the document in an excerpt of a line, or of the lines on which the span starts and ends.

## Main definitions

* `Gives`: a computation that gives a result with a property
* `Excerpt.IsValid`, `Snippet.IsValid`: all ranges are within the excerpt, between characters
* `GivesValid`: a rule gives findings, and all of them are valid
* `Context.IsPlaced`: a document whose nodes have their lines in it

## Main results

* `Context.IsPlaced.valueFinding`, `Context.IsPlaced.marksFinding`: findings about a field are valid
* `Context.HoldsNodes.nodeExcerpt`: so are those about a node
* `Context.gives_markedSpan`: so are those about a span of the document
-/

namespace ProposalCheck

/-! ### Computations that give a result -/

/-- A computation gives a result, and the result has a property. -/
def Gives {ε α : Type} (p : α → Prop) (computation : Except ε α) : Prop :=
  ∃ value, computation = .ok value ∧ p value

namespace Gives

variable {ε α β : Type} {p : α → Prop} {q : β → Prop}

theorem ok {value : α} (h : p value) : Gives p (.ok value : Except ε α) := ⟨value, rfl, h⟩

theorem bind {first : Except ε α} {next : α → Except ε β} (h : Gives p first)
    (hnext : ∀ value, p value → Gives q (next value)) : Gives q (first >>= next) := by
  obtain ⟨value, rfl, hvalue⟩ := h
  exact hnext value hvalue

theorem mono {r : α → Prop} {computation : Except ε α} (h : Gives p computation) (himp : ∀ value, p value → r value) :
    Gives r computation := by
  obtain ⟨value, rfl, hvalue⟩ := h
  exact ok (himp value hvalue)

/-- A computation for each item of a list gives what it gives for each. -/
theorem mapM {f : α → Except ε β} {items : List α} (h : ∀ item ∈ items, Gives q (f item)) :
    Gives (∀ result ∈ ·, q result) (items.mapM f) := by
  obtain ⟨results, hresults, hall⟩ := exists_mapM_eq_ok (R := fun _ result => q result) h
  exact ⟨results, hresults, forall_of_forall₂ hall fun _ _ hresult => hresult⟩

theorem asRuleError {computation : Except PositionError α} (h : Gives p computation) :
    Gives p (PositionError.asRuleError computation) := by
  obtain ⟨value, rfl, hvalue⟩ := h
  exact ok hvalue

end Gives

/-! ### Validity -/

/-- Every range that is marked in an excerpt lies within it and begins and ends between characters. -/
def Excerpt.IsValid (excerpt : Excerpt) : Prop := ∀ mark ∈ excerpt.marks, mark.range.IsWithin excerpt.source

/-- All excerpts of a finding are valid. -/
def Snippet.IsValid (snippet : Snippet) : Prop := ∀ excerpt ∈ snippet.excerpts, excerpt.IsValid

/-- A rule gives findings, and all of them are valid. -/
def GivesValid (finding : Finding (List Snippet)) : Prop := Gives (∀ snippet ∈ ·, snippet.IsValid) finding

theorem Snippet.isValid_about {excerpt : Excerpt} (h : excerpt.IsValid) (label : String) (footer : List Note) :
    (about label excerpt footer).IsValid := List.forall_mem_singleton.mpr h

/-- A finding without excerpts marks nothing. -/
theorem Snippet.isValid_of_nil {snippet : Snippet} (h : snippet.excerpts = []) : snippet.IsValid := by
  intro excerpt hexcerpt
  rw [h] at hexcerpt
  cases hexcerpt

namespace GivesValid

theorem nil : GivesValid (.ok []) := .ok (List.forall_mem_nil _)

theorem about {excerpt : Finding Excerpt} (h : Gives Excerpt.IsValid excerpt) (label : String) (footer : List Note) :
    GivesValid (do return [.about label (← excerpt) footer]) :=
  h.bind fun _ hexcerpt => .ok (List.forall_mem_singleton.mpr (Snippet.isValid_about hexcerpt label footer))

/-- What is found for each item of a list is valid together. -/
theorem flatten {α : Type} {f : α → Finding (List Snippet)} {items : List α}
    (h : ∀ item ∈ items, GivesValid (f item)) : GivesValid (do return (← items.mapM f).flatten) := by
  refine (Gives.mapM h).bind fun results hresults => .ok fun snippet hsnippet => ?_
  obtain ⟨result, hresult, hmem⟩ := List.mem_flatten.mp hsnippet
  exact hresults result hresult snippet hmem

/-- A rule about the first field of a name is silent if there is none. -/
theorem ofField {context : Context} {name : String} {f : Field → Finding (List Snippet)}
    (h : ∀ field ∈ context.preamble.fields, GivesValid (f field)) :
    GivesValid (match context.preamble.find? name with
      | none => .ok []
      | some field => f field) := by
  cases hfind : context.preamble.find? name with
  | none => exact .nil
  | some field => exact h field (List.mem_of_find?_eq_some hfind)

/-- Excerpts of what is unknown, and then findings about what is out of order. -/
theorem extra {unknown : Finding (List Excerpt)} {misplaced : Finding (List Snippet)}
    (hunknown : Gives (∀ excerpt ∈ ·, excerpt.IsValid) unknown) (hmisplaced : GivesValid misplaced) (isEmpty : Bool)
    (label : String) : GivesValid (do
      let excerpts ← unknown
      let found ← misplaced
      return (if isEmpty then [] else [{ title := { label }, excerpts }]) ++ found) := by
  refine hunknown.bind fun excerpts hexcerpts => hmisplaced.bind fun found hfound => .ok fun snippet hsnippet => ?_
  rcases List.mem_append.mp hsnippet with hextra | hmem
  · split_ifs at hextra
    · cases hextra
    · rw [List.mem_singleton.mp hextra]
      exact hexcerpts
  · exact hfound snippet hmem

end GivesValid

/-! ### Pieces of a text -/

/-- Some characters of a text that stands in another one stand there, too. -/
theorem Span.Covers.bytesOf_covers {range : Span} {cs : List Char} {text : String} (h : range.Covers cs text.toList)
    (piece : Span) : (bytesOf range.start text piece).Covers cs
      ((text.toList.drop piece.start).take (piece.stop - piece.start)) := by
  obtain ⟨before, after, hcs, rfl⟩ := h
  refine ⟨before ++ text.toList.take piece.start,
    (text.toList.drop piece.start).drop (piece.stop - piece.start) ++ after, ?_, ?_⟩
  · rw [hcs, List.append_assoc, ← List.append_assoc (List.take _ _) _ after, List.take_append_drop,
      ← List.append_assoc (List.take _ _), List.take_append_drop]
  · rw [bytesOf, byteLength_append]

/-- So they begin and end between characters. -/
theorem Span.Covers.bytesOf_isWithin {range : Span} {source text : String} (h : range.Covers source.toList text.toList)
    (piece : Span) : (bytesOf range.start text piece).IsWithin source := (h.bytesOf_covers piece).isWithin

/-! ### Fields -/

namespace Field.Shows

variable {field : Field} {lines : Lines} {line : Nat}

/-- Pieces of the value of a field stand in its line. -/
theorem bytesOf_isWithin (h : field.Shows lines line) (piece : Span) :
    (bytesOf field.valueOffset field.value piece).IsWithin field.source := by
  have hcovers := Span.covers_append (field.name ++ ":").toList field.value.toList []
  rw [List.append_nil, ← h.source_eq] at hcovers
  rw [field.valueOffset_eq]
  exact hcovers.bytesOf_isWithin piece

theorem valueRange_isWithin (h : field.Shows lines line) : field.valueRange.IsWithin field.source :=
  h.valueRange_covers.isWithin

theorem item_isWithin (h : field.Shows lines line) {item : String × Span} (hitem : item ∈ field.items ",") :
    item.2.IsWithin field.source := (h.items_covers item hitem).isWithin

theorem nameRange_covers (h : field.Shows lines line) :
    field.nameRange.Covers field.source.toList field.name.toList := by
  refine ⟨[], ":".toList ++ field.value.toList, ?_, ?_⟩
  · rw [h.source_eq, String.toList_append, List.nil_append, List.append_assoc]
  · rw [nameRange, byteLength_toList]
    simp [byteLength]

theorem nameRange_isWithin (h : field.Shows lines line) : field.nameRange.IsWithin field.source :=
  h.nameRange_covers.isWithin

end Field.Shows

/-! ### Excerpts -/

namespace Context

variable {context : Context} {field : Field} {source : String} {marks : List Mark}

theorem gives_checkMark {range : Nat × Nat} (h : Span.IsWithin ⟨range.1, range.2⟩ source) (label : String)
    (severity : Option Severity) : Gives (fun mark : Mark => mark.range.IsWithin source)
      (checkMark range label severity) := ⟨_, checkMark_eq h.le label severity, h⟩

theorem gives_lineExcerpt {line : Int} (hline : context.lines.line line = .ok source)
    (hmarks : ∀ mark ∈ marks, mark.range.IsWithin source) :
    Gives Excerpt.IsValid (context.lineExcerpt line marks) :=
  ⟨_, lineExcerpt_eq hline fun mark hmark => (hmarks mark hmark).stop_le, hmarks⟩

/-- Marks on the line of a field make one finding, if there are any. -/
theorem marksFinding_eq (h : field.Shows context.lines field.line)
    (hmarks : ∀ mark ∈ marks, mark.range.IsWithin field.source) (title : String) (footer : List Note) :
    ProposalCheck.marksFinding context field title marks footer = .ok (if marks = [] then [] else
      [.about title { origin := context.document.origin, lineStart := field.line, source := field.source, marks }
        footer]) := by
  rw [ProposalCheck.marksFinding, fieldExcerpt,
    lineExcerpt_eq h.source fun mark hmark => (hmarks mark hmark).stop_le]
  cases marks <;> rfl

/-- A finding that marks a range within a line. -/
theorem gives_markedLine {line : Int} {range : Nat × Nat} (hline : context.lines.line line = .ok source)
    (h : Span.IsWithin ⟨range.1, range.2⟩ source) (title label : String) (footer : List Note) :
    Gives Snippet.IsValid (do
      let mark ← checkMark range label
      return .about title (← context.lineExcerpt line [mark]) footer) := by
  refine (gives_checkMark h label none).bind fun mark hmark => ?_
  refine (gives_lineExcerpt hline (List.forall_mem_singleton.mpr hmark)).bind fun excerpt hexcerpt => ?_
  exact .ok (Snippet.isValid_about hexcerpt title footer)

/-- A finding that marks a span of the document, on the lines on which the span starts and ends. -/
theorem gives_markedSpan {span : Span} (h : span.IsWithin context.lines.source) (label : String)
    (severity : Option Severity) (fold : Nat → Nat → Bool) {next : Excerpt → Finding Snippet}
    (hnext : ∀ excerpt, excerpt.IsValid → Gives Snippet.IsValid (next excerpt)) : Gives Snippet.IsValid (do
      let first ← PositionError.asRuleError (context.lines.lineOf span.start)
      let last ← PositionError.asRuleError (context.lines.lineOf span.stop)
      let range ← PositionError.asRuleError (context.linesRange first span.start span.stop)
      let mark ← checkMark range label severity
      next (← context.linesExcerpt first last [mark] (fold first last))) := by
  obtain ⟨first, last, source, range, hfirst, hlast, hrange, hlines, hwithin⟩ := linesRange_spec h
  rw [hfirst, hlast]
  dsimp only [PositionError.asRuleError, bind, Except.bind]
  rw [hrange]
  refine (gives_checkMark hwithin label severity).bind fun mark hmark => ?_
  have hmarks : ∀ other ∈ [mark], other.range.IsWithin source := List.forall_mem_singleton.mpr hmark
  rw [linesExcerpt_eq hlines (fun other hother => (hmarks other hother).stop_le)]
  exact hnext _ hmarks

/-- A document that was read from a text, and whose nodes have their lines in it. -/
structure IsPlaced (context : Context) : Prop where
  isDocument : ∃ text origin, Document.ofString text origin = .ok context.document
  lines : ∀ node ∈ context.body.nodes, ∀ first last, node.lines = some (first, last) →
    1 ≤ first ∧ first ≤ last ∧ last ≤ context.lines.count

/-- The nodes of a document are those of a tree and have their lines in the document. -/
structure HoldsNodes (context : Context) : Prop where
  hasTree : context.document.HasTree
  lines : ∀ node ∈ context.body.nodes, ∀ first last, node.lines = some (first, last) →
    1 ≤ first ∧ first ≤ last ∧ last ≤ context.lines.count

/-- Whether the nodes of a document have their lines in it can be found out by going through them. -/
def holdsLines (document : Document) : Bool :=
  document.body.nodes.toList.all fun node => node.lines.all fun (first, last) =>
    1 ≤ first && first ≤ last && last ≤ document.lines.count

theorem lines_of_holdsLines {document : Document} (hall : holdsLines document = true) {node : Node}
    (hnode : node ∈ document.body.nodes) {first last : Nat} (hlines : node.lines = some (first, last)) :
    1 ≤ first ∧ first ≤ last ∧ last ≤ document.lines.count := by
  have hall := List.all_eq_true.mp hall node (Array.mem_toList_iff.mpr hnode)
  rw [hlines] at hall
  obtain ⟨⟨hfirst, hle⟩, hlast⟩ : (1 ≤ first ∧ first ≤ last) ∧ last ≤ document.lines.count := by simpa using hall
  exact ⟨hfirst, hle, hlast⟩

theorem holdsNodes_of_holdsLines {document : Document} {settings : LintSettings} (hdocument : document.HasTree)
    (hall : holdsLines document = true) : HoldsNodes ⟨document, settings⟩ :=
  ⟨hdocument, fun _ hnode _ _ hlines => lines_of_holdsLines hall hnode hlines⟩

theorem isPlaced_of_holdsLines {document : Document} {text : String} {origin : Option String}
    {settings : LintSettings} (hdocument : Document.ofString text origin = .ok document)
    (hall : holdsLines document = true) : IsPlaced ⟨document, settings⟩ :=
  ⟨⟨text, origin, hdocument⟩, fun _ hnode _ _ hlines => lines_of_holdsLines hall hnode hlines⟩

namespace IsPlaced

/-- A document that is read from a text has the tree of its body. -/
theorem holdsNodes (h : context.IsPlaced) : context.HoldsNodes := by
  obtain ⟨text, origin, hdocument⟩ := h.isDocument
  exact ⟨Document.hasTree_of_ofString hdocument, h.lines⟩

/-! ### Findings about fields -/

theorem shows (h : context.IsPlaced) (hfield : field ∈ context.preamble.fields) :
    field.Shows context.lines field.line := by
  obtain ⟨text, origin, hdocument⟩ := h.isDocument
  exact Document.shows_of_mem hdocument hfield

theorem fieldExcerpt (h : context.IsPlaced) (hfield : field ∈ context.preamble.fields)
    (hmarks : ∀ mark ∈ marks, mark.range.IsWithin field.source) :
    Gives Excerpt.IsValid (context.fieldExcerpt field marks) := gives_lineExcerpt (h.shows hfield).source hmarks

theorem nameExcerpt (h : context.IsPlaced) (hfield : field ∈ context.preamble.fields) (label : String) :
    Gives Excerpt.IsValid (ProposalCheck.nameExcerpt context field label) :=
  h.fieldExcerpt hfield (List.forall_mem_singleton.mpr (h.shows hfield).nameRange_isWithin)

theorem valueFinding (h : context.IsPlaced) (hfield : field ∈ context.preamble.fields) (title label : String)
    (footer : List Note) : GivesValid (ProposalCheck.valueFinding context field title label footer) :=
  .about (h.fieldExcerpt hfield (List.forall_mem_singleton.mpr (h.shows hfield).valueRange_isWithin)) title footer

theorem marksFinding (h : context.IsPlaced) (hfield : field ∈ context.preamble.fields) (title : String)
    (hmarks : ∀ mark ∈ marks, mark.range.IsWithin field.source) (footer : List Note) :
    GivesValid (ProposalCheck.marksFinding context field title marks footer) := by
  rw [ProposalCheck.marksFinding]
  split_ifs
  · exact .nil
  · exact .about (h.fieldExcerpt hfield hmarks) title footer

end IsPlaced

namespace HoldsNodes

/-! ### Findings about nodes -/

variable {node : Node} {first last : Nat}

theorem isShown (h : context.HoldsNodes) (hnode : node ∈ context.body.nodes) : node.IsShown context.lines :=
  h.hasTree.isShown hnode

/-- The first line of a node can be shown, with a mark on whatever shows in it of a span of the document. -/
theorem exists_line (h : context.HoldsNodes) (hnode : node ∈ context.body.nodes)
    (hlines : node.lines = some (first, last)) : ∃ source, context.lines.line first = .ok source ∧
      ∀ span : Span, span.IsWithin context.lines.source →
        Gives (fun range => Span.IsWithin ⟨range.1, range.2⟩ source) (context.lineRange first span.start span.stop) := by
  obtain ⟨hfirst, hle, hlast⟩ := h.lines node hnode first last hlines
  obtain ⟨k, rfl⟩ : ∃ k, first = k + 1 := ⟨first - 1, by omega⟩
  have hrow := List.getElem?_eq_getElem (show k < context.lines.rowList.length from Nat.le_trans hle hlast)
  refine ⟨_, Lines.line_of_getElem? hrow, fun span hspan => ?_⟩
  obtain ⟨range, hrange, hwithin⟩ := lineRange_spec hrow hspan.start hspan.stop
  exact ⟨_, hrange, hwithin⟩

/-- What is marked for a node lies on its first line. -/
theorem nodeRange (h : context.HoldsNodes) (hnode : node ∈ context.body.nodes) (hlines : node.lines = some (first, last)) :
    ∃ source, context.lines.line first = .ok source ∧
      Gives (fun range => Span.IsWithin ⟨range.1, range.2⟩ source) (context.nodeRange node first) := by
  obtain ⟨source, hline, hrange⟩ := h.exists_line hnode hlines
  refine ⟨source, hline, ?_⟩
  rw [Context.nodeRange]
  apply Gives.asRuleError
  cases hspan : node.span with
  | some span => exact hrange span ((h.isShown hnode).isWithin span hspan)
  | none =>
    -- a node without a span is shown by its whole line
    dsimp only
    rw [hline]
    refine .ok (Span.isWithin_of_isBoundary (Nat.zero_le _) (isBoundary_zero _) ?_)
    rw [← byteLength_toList]
    exact isBoundary_byteLength _

theorem nodeExcerpt (h : context.HoldsNodes) (hnode : node ∈ context.body.nodes) (hlines : node.lines = some (first, last))
    (label : String) : Gives Excerpt.IsValid (context.nodeExcerpt node first label) := by
  obtain ⟨source, hline, hrange⟩ := h.nodeRange hnode hlines
  refine hrange.bind fun range hwithin => (gives_checkMark hwithin label none).bind fun mark hmark => ?_
  exact gives_lineExcerpt hline (List.forall_mem_singleton.mpr hmark)

end HoldsNodes

end Context

end ProposalCheck

import ProposalCheck.Proofs.Lint.Valid
import ProposalCheck.Rule.Comment
import ProposalCheck.Rule.Link
import ProposalCheck.Rule.Section

/-!
# Rules about the body give valid findings

These rules mark headings, links, mentions in the text, comments, or what is found in the text of the body. They
go from the place of a node, or of a piece of the text, to that of an excerpt.

## Main results

* `LinkFirstRule.of_mem_unlinked`: only pieces of text are mentions without a link
* `Document.exists_bodySource_covers`: the text of the body stands at the end of the document
* `CommentRule.gives_commentsOf`: comments stand where their nodes do
* `SectionOrderRule.gives_check` and the like: every rule gives valid findings
-/

namespace ProposalCheck

variable {context : Context}

/-! ### Sections -/

/-- A section is named by a heading of the body, and the heading has a line. -/
theorem SectionHeading.exists_of_mem_all {heading : SectionHeading} (h : heading ∈ all context.body) :
    heading.node ∈ context.body.nodes ∧ ∃ last, heading.node.lines = some (heading.line, last) := by
  obtain ⟨node, hnode, hheading⟩ := List.mem_filterMap.mp h
  have hmem := Body.mem_nodes_of_mem_all (List.mem_filter.mp hnode).1
  cases hlines : node.lines with
  | none =>
    rw [hlines] at hheading
    cases hheading
  | some lines =>
    rw [hlines] at hheading
    cases hheading
    exact ⟨hmem, lines.2, hlines⟩

theorem SectionHeading.gives_excerpt (h : context.IsPlaced) {heading : SectionHeading}
    (hheading : heading ∈ all context.body) (label : String) :
    Gives Excerpt.IsValid (heading.excerpt context label) := by
  obtain ⟨hnode, last, hlines⟩ := exists_of_mem_all hheading
  exact h.holdsNodes.nodeExcerpt hnode hlines label

theorem SectionOrderRule.mem_of_mem_outOfOrder {lowest : Nat × String} {headings : List SectionHeading}
    {entry : SectionHeading × String} (h : entry ∈ outOfOrder lowest headings) : entry.1 ∈ headings := by
  induction headings generalizing lowest with
  | nil => cases h
  | cons heading headings ih =>
    rw [outOfOrder] at h
    split_ifs at h
    · exact List.mem_cons_of_mem _ (ih h)
    · rcases List.mem_cons.mp h with rfl | h
      · exact List.mem_cons_self
      · exact List.mem_cons_of_mem _ (ih h)

theorem SectionOrderRule.gives_check (rule : SectionOrderRule) (h : context.IsPlaced) :
    GivesValid (rule.check context) := by
  apply GivesValid.extra
  · exact Gives.mapM fun heading hheading => SectionHeading.gives_excerpt h (List.mem_filter.mp hheading).1 _
  · refine Gives.mapM fun entry hentry => ?_
    obtain ⟨name, -, hfirst⟩ := List.mem_filterMap.mp (mem_of_mem_outOfOrder hentry)
    refine (SectionHeading.gives_excerpt h (List.mem_of_find?_eq_some hfirst) _).bind fun excerpt hexcerpt => ?_
    exact .ok (Snippet.isValid_about hexcerpt _ _)

theorem SectionRequiredRule.gives_check (rule : SectionRequiredRule) (context : Context) :
    GivesValid (rule.check context) := by
  rw [check]
  split_ifs
  · exact .nil
  · exact .ok (List.forall_mem_singleton.mpr (Snippet.isValid_of_nil rfl))

/-! ### Marks of headings -/

/-- A run of one character of ASCII has as many bytes as characters. -/
theorem byteLength_takeWhile {c : Char} (h : c.utf8Size = 1) (cs : List Char) :
    byteLength (cs.takeWhile (· = c)) = (cs.takeWhile (· = c)).length := by
  induction cs with
  | nil => rfl
  | cons d cs ih =>
    rw [List.takeWhile_cons]
    split_ifs with heq
    · rw [byteLength, ih, List.length_cons, of_decide_eq_true heq, h, Nat.add_comm]
    · rfl

/-- The marks of a heading stand in its line behind the spaces before them. -/
theorem HeadingSpaceRule.unspacedMarks?_isWithin {text : String} {range : Span}
    (h : unspacedMarks? text.toList = some range) : range.IsWithin text := by
  have hspaces := List.prefix_iff_eq_append.mp (List.takeWhile_prefix (· = ' ') (l := text.toList))
  have hmarks := List.prefix_iff_eq_append.mp (List.takeWhile_prefix (· = '#')
    (l := text.toList.drop (text.toList.takeWhile (· = ' ')).length))
  rw [unspacedMarks?] at h
  split at h
  · cases h
  · split_ifs at h
    obtain rfl := Option.some.inj h
    refine Span.Covers.isWithin ⟨_, _, (hmarks ▸ hspaces).symm, ?_⟩
    rw [byteLength_takeWhile (by decide), byteLength_takeWhile (by decide)]

theorem HeadingSpaceRule.gives_check (rule : HeadingSpaceRule) (h : context.IsPlaced) :
    GivesValid (rule.check context) := by
  refine .flatten fun line hline => ?_
  obtain ⟨text, origin, hdocument⟩ := h.isDocument
  obtain ⟨closing, -, hfirst, -⟩ := Document.exists_stands hdocument
  obtain ⟨n, hn, rfl⟩ := List.mem_map.mp hline
  rw [List.mem_range] at hn
  -- the lines that are looked at are those from the first line of the body to the last line of the document
  have hrow := List.getElem?_eq_getElem (show closing + n < context.lines.rowList.length by
    change _ < context.lines.count
    change n < context.lines.count + 1 - context.document.body.firstLine at hn
    omega)
  have hsource := Lines.line_of_getElem? hrow
  rw [show closing + n + 1 = context.body.firstLine + n by rw [Context.body]; omega] at hsource
  rw [finding]
  split_ifs
  · exact GivesValid.nil
  · refine Gives.bind (.asRuleError ⟨_, hsource, rfl⟩) ?_
    rintro _ rfl
    split
    · exact GivesValid.nil
    · rename_i range hrange
      exact GivesValid.about (Context.gives_lineExcerpt hsource
        (List.forall_mem_singleton.mpr (unspacedMarks?_isWithin hrange))) _ _

/-! ### Links -/

theorem RelativeLinkRule.gives_check (rule : RelativeLinkRule) (h : context.IsPlaced) :
    GivesValid (rule.check context) := by
  refine .flatten fun node hnode => ?_
  have hmem := Body.mem_nodes_of_mem_all (List.mem_filter.mp hnode).1
  rw [finding]
  split_ifs
  · exact .nil
  · cases hlines : node.lines with
    | none => exact .nil
    | some lines => exact .about (h.holdsNodes.nodeExcerpt hmem hlines _) _ _

theorem LinkTextRule.gives_check (rule : LinkTextRule) (h : context.IsPlaced) : GivesValid (rule.check context) := by
  refine .flatten fun node hnode => ?_
  have hmem := Body.mem_nodes_of_mem_all (List.mem_filter.mp hnode).1
  rw [finding?]
  split
  · exact .nil
  · dsimp only
    split
    · rename_i hlines
      exact .about (h.holdsNodes.nodeExcerpt hmem hlines _) _ _
    · exact .nil

/-- Only pieces of text can be mentions without a link. -/
theorem LinkFirstRule.of_mem_unlinked {search : Search} {body : Body} {linked : List String} {nodes : List Node}
    {entry : Node × Span} (h : entry ∈ unlinked search body linked nodes) :
    entry.1 ∈ nodes ∧ entry.1.kind = .text := by
  induction nodes generalizing linked with
  | nil => cases h
  | cons node nodes ih =>
    rw [unlinked.eq_def] at h
    dsimp only at h
    split at h
    · exact ⟨List.mem_cons_of_mem _ (ih h).1, (ih h).2⟩
    · rename_i hkind
      rcases List.mem_append.mp h with hfound | h
      · obtain ⟨piece, -, rfl⟩ := List.mem_map.mp hfound
        exact ⟨List.mem_cons_self, hkind⟩
      · exact ⟨List.mem_cons_of_mem _ (ih h).1, (ih h).2⟩
    · exact ⟨List.mem_cons_of_mem _ (ih h).1, (ih h).2⟩

/-- A mention in a piece of text is marked where the text stands, or with its line. -/
theorem LinkFirstRule.gives_finding (rule : LinkFirstRule) (h : context.IsPlaced) {node : Node} {first last : Nat}
    (hnode : node ∈ context.body.nodes) (hkind : node.kind = .text) (hlines : node.lines = some (first, last))
    (piece : Span) : Gives Snippet.IsValid (rule.finding context node first piece) := by
  rw [finding]
  cases hspan : node.span with
  | none =>
    obtain ⟨source, hline, hrange⟩ := h.holdsNodes.nodeRange hnode hlines
    exact hrange.bind fun range hwithin => Context.gives_markedLine hline hwithin _ _ _
  | some span =>
    obtain ⟨source, hline, hrange⟩ := h.holdsNodes.exists_line hnode hlines
    have hcovers := (h.holdsNodes.isShown hnode).covers hkind span hspan
    exact (hrange _ (hcovers.bytesOf_isWithin piece)).asRuleError.bind fun range hwithin =>
      Context.gives_markedLine hline hwithin _ _ _

theorem LinkFirstRule.gives_check (rule : LinkFirstRule) (h : context.IsPlaced) : GivesValid (rule.check context) := by
  refine .flatten fun entry hentry => ?_
  obtain ⟨hmem, hkind⟩ := of_mem_unlinked hentry
  obtain ⟨node, piece⟩ := entry
  dsimp only
  split
  · exact .nil
  · rename_i line last hlines
    refine (rule.gives_finding h (Body.mem_nodes_of_mem_all hmem) hkind hlines piece).bind fun snippet hsnippet => ?_
    exact .ok (List.forall_mem_singleton.mpr hsnippet)

/-! ### The text of the body -/

/-- The text of the body stands in the document where the first line of the body starts. -/
theorem Document.exists_bodySource_covers {document : Document} {line : Span}
    (h : document.lines.lineSpan document.body.firstLine = .ok line) :
    ∃ range : Span, range.start = line.start ∧ range.Covers document.source.toList document.bodySource.toList := by
  obtain ⟨row, hrow, hspan⟩ := exists_of_bind_eq_ok h
  obtain rfl := Except.ok.inj hspan
  obtain ⟨k, hfirst, hrow⟩ := Lines.exists_of_row hrow
  obtain ⟨before, rest, hsource, hstart, htiles⟩ := Lines.tiles_drop hrow
  refine ⟨_, hstart.symm, before, [], ?_, rfl⟩
  rw [Document.bodySource, String.toList_ofList, hfirst, Nat.add_sub_cancel, List.append_nil]
  exact hsource.trans (congrArg (before ++ ·) htiles.intercalate_chars.symm)

theorem BodyPatternRule.gives_finding (rule : BodyPatternRule) {span : Span}
    (h : span.IsWithin context.lines.source) : Gives Snippet.IsValid (rule.finding context span) :=
  Context.gives_markedSpan h _ _ (fun _ _ => false) fun _ hexcerpt => .ok (Snippet.isValid_about hexcerpt _ _)

theorem BodyPatternRule.gives_check (rule : BodyPatternRule) (context : Context) :
    GivesValid (rule.check context) := by
  rw [check, checkWith]
  split
  · split_ifs
    · exact .ok (List.forall_mem_singleton.mpr (Snippet.isValid_of_nil rfl))
    · exact .nil
  · split
    · exact .nil
    · rename_i line hline
      obtain ⟨range, hstart, hcovers⟩ := Document.exists_bodySource_covers hline
      exact Gives.mapM fun piece _ => rule.gives_finding (hstart ▸ hcovers.bytesOf_isWithin piece)

/-! ### Comments -/

/-- The comments in a node stand where the node does. -/
theorem CommentRule.gives_commentsOf (h : context.IsPlaced) {node : Node} (hnode : node ∈ context.body.nodes) :
    Gives (∀ span ∈ ·, Span.IsWithin span context.lines.source) (commentsOf context node) := by
  have hslice : ∀ span, node.span = some span → Gives (∀ span ∈ ·, Span.IsWithin span context.lines.source) (do
      let text ← context.lines.slice span.start span.stop
      return (commentsFrom 0 0 text.toList).map (bytesOf span.start text)) := by
    intro span hspan
    obtain ⟨text, htext, hcovers⟩ := Lines.exists_slice ((h.holdsNodes.isShown hnode).isWithin span hspan)
    rw [htext]
    refine .ok fun comment hcomment => ?_
    obtain ⟨piece, -, rfl⟩ := List.mem_map.mp hcomment
    exact hcovers.bytesOf_isWithin piece
  rw [commentsOf.eq_def]
  split
  · rename_i hspan
    exact hslice _ hspan
  · rename_i hspan
    exact hslice _ hspan
  · exact .ok (List.forall_mem_nil _)

theorem CommentRule.gives_finding (rule : CommentRule) {span : Span} (h : span.IsWithin context.lines.source) :
    Gives Snippet.IsValid (rule.finding context span) :=
  Context.gives_markedSpan h _ _ (fun first last => context.settings.foldThreshold < (last - first + 1 : Int))
    fun _ hexcerpt => .ok (List.forall_mem_singleton.mpr hexcerpt)

theorem CommentRule.gives_check (rule : CommentRule) (h : context.IsPlaced) : GivesValid (rule.check context) := by
  have hcomments := Gives.mapM fun node hnode => gives_commentsOf h (Body.mem_nodes_of_mem_all hnode)
  refine hcomments.asRuleError.bind fun found hfound => Gives.mapM fun span hspan => rule.gives_finding ?_
  obtain ⟨comments, hmem, hspan⟩ := List.mem_flatten.mp hspan
  exact hfound comments hmem span hspan

end ProposalCheck

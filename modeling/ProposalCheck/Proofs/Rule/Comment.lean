import ProposalCheck.Proofs.Document.Read
import ProposalCheck.Proofs.Lint.Shown
import ProposalCheck.Proofs.Lint.Valid
import ProposalCheck.Rule.Comment

/-!
# Comments that are found

A comment goes from its start up to and including the first end behind it, or else to the end of the text. The search
passes over a comment before it goes on, so the comments of a text are apart from each other, and no start is outside
of them. The rule reports all comments in what a node of HTML shows in the document. For a block that is everything; a
piece within a line of text shows nothing where it has not been found.

## Main definitions

* `IsComment`, `AreComments`: a comment of a text, and all comments of a text
* `CommentRule.Reports`: a finding about a comment
* `CommentRule.ReportsNode`: the findings about the comments in a node
* `CommentRule.Completes`: the findings about a node, and when there are any

## Main results

* `areComments_commentsFrom`: the search gives the comments of a text
* `CommentRule.check_comments`: the findings are those about the comments of all nodes
-/

namespace ProposalCheck

/-! ### The comments of a text -/

/-- The start of a comment. -/
def commentStart : List Char := ['<', '!', '-', '-']

/-- The end of a comment. -/
def commentStop : List Char := ['-', '-', '>']

theorem isSolid_commentStart : Markdown.IsSolid commentStart := ⟨by decide, by decide, by decide⟩

/-- What is left of a comment behind its start: all up to and including the first end, or all of the text. -/
def EndsComment (inner after : List Char) : Prop :=
  (∃ words, inner = words ++ commentStop ∧ ¬commentStop <:+: inner.dropLast) ∨ after = [] ∧ ¬commentStop <:+: inner

/-- A comment of a text goes from a start up to and including the first end behind it, or to the end of the text. -/
def IsComment (text : List Char) (piece : Span) : Prop :=
  ∃ before inner after, text = before ++ (commentStart ++ (inner ++ after)) ∧ EndsComment inner after ∧
    piece = ⟨before.length, before.length + (commentStart ++ inner).length⟩

/-- The comments of a text behind a place, in order and apart from each other. Every start behind the place lies in one
of them. -/
structure AreComments (text : List Char) (place : Nat) (pieces : List Span) : Prop where
  isComment : ∀ piece ∈ pieces, IsComment text piece
  le_start : ∀ piece ∈ pieces, place ≤ piece.start
  ordered : pieces.Pairwise fun piece next => piece.stop ≤ next.start
  all : ∀ before after, text = before ++ (commentStart ++ after) → place ≤ before.length →
    ∃ piece ∈ pieces, piece.start ≤ before.length ∧ before.length < piece.stop

theorem endsComment_cons {c : Char} {inner after : List Char} (h : EndsComment inner after)
    (hstop : ¬commentStop <+: c :: (inner ++ after)) : EndsComment (c :: inner) after := by
  have hnot : ∀ {part}, part <+: inner → ¬commentStop <+: c :: part := fun hpart hstart =>
    hstop (hstart.trans ((List.prefix_cons_inj c).mpr (hpart.trans (List.prefix_append _ _))))
  rcases h with ⟨words, hinner, hnone⟩ | ⟨hafter, hnone⟩
  · refine .inl ⟨c :: words, by rw [hinner, List.cons_append], ?_⟩
    have hne : inner ≠ [] := by simp [hinner, commentStop]
    rw [List.dropLast_cons_of_ne_nil hne, List.infix_cons_iff]
    exact fun h => h.elim (hnot (List.dropLast_prefix inner)) hnone
  · refine .inr ⟨hafter, ?_⟩
    rw [List.infix_cons_iff]
    exact fun h => h.elim (hnot List.prefix_rfl) hnone

/-- The length of what is left of a comment. -/
theorem exists_of_commentLength (cs : List Char) :
    ∃ inner after, cs = inner ++ after ∧ commentLength cs = inner.length ∧ EndsComment inner after := by
  fun_induction commentLength cs with
  | case1 rest => exact ⟨commentStop, rest, rfl, rfl, .inl ⟨[], rfl, by decide⟩⟩
  | case2 => exact ⟨[], [], rfl, rfl, .inr ⟨rfl, by decide⟩⟩
  | case3 c rest hstop ih =>
    obtain ⟨inner, after, rfl, hlength, hends⟩ := ih
    refine ⟨c :: inner, after, rfl, by rw [hlength, List.length_cons], endsComment_cons hends ?_⟩
    rintro ⟨more, hmore⟩
    obtain ⟨hc, hmore⟩ := List.cons.inj (show '-' :: ('-' :: '>' :: more) = c :: (inner ++ after) from hmore)
    exact hstop more hc.symm hmore.symm

namespace AreComments

variable {text : List Char} {place : Nat} {pieces : List Span}

theorem nil (h : text.length ≤ place) : AreComments text place [] := by
  refine ⟨List.forall_mem_nil _, List.forall_mem_nil _, .nil, fun before after hsplit hle => ?_⟩
  have hlength := congrArg List.length hsplit
  simp only [List.length_append, commentStart, List.length_cons] at hlength
  omega

/-- A comment at the place comes before the comments behind it. -/
theorem cons {piece : Span} (hpiece : IsComment text piece) (h : AreComments text piece.stop pieces) :
    AreComments text piece.start (piece :: pieces) := by
  have hle : piece.start ≤ piece.stop := by
    obtain ⟨before, inner, after, -, -, rfl⟩ := hpiece
    exact Nat.le_add_right _ _
  refine ⟨List.forall_mem_cons.mpr ⟨hpiece, h.isComment⟩,
    List.forall_mem_cons.mpr ⟨Nat.le_refl _, fun other hother => hle.trans (h.le_start other hother)⟩,
    List.pairwise_cons.mpr ⟨h.le_start, h.ordered⟩, fun before after hsplit hstart => ?_⟩
  rcases Nat.lt_or_ge before.length piece.stop with hlt | hge
  · exact ⟨piece, List.mem_cons_self, hstart, hlt⟩
  · obtain ⟨other, hother, hin⟩ := h.all before after hsplit hge
    exact ⟨other, List.mem_cons_of_mem _ hother, hin⟩

/-- Where no comment starts, the comments are those behind the next character. -/
theorem of_succ (h : AreComments text (place + 1) pieces)
    (hno : ∀ before after, text = before ++ (commentStart ++ after) → before.length ≠ place) :
    AreComments text place pieces :=
  ⟨h.isComment, fun piece hpiece => Nat.le_of_succ_le (h.le_start piece hpiece), h.ordered,
    fun before after hsplit hle =>
      h.all before after hsplit (Nat.lt_of_le_of_ne hle (hno before after hsplit).symm)⟩

end AreComments

/-- What is left of a text behind a place, and behind a comment that is still to be passed, is searched for comments. -/
theorem areComments_commentsFrom (skip : Nat) (done rest : List Char) :
    AreComments (done ++ rest) (done.length + skip) (commentsFrom skip done.length rest) := by
  induction rest generalizing skip done with
  | nil => exact .nil (by simp)
  | cons c rest ih =>
    have hnext := fun skip => ih skip (done ++ [c])
    simp only [List.append_assoc, List.singleton_append, List.length_append, List.length_singleton] at hnext
    rw [commentsFrom]
    split_ifs with hskip
    · have hrest := hnext (skip - 1)
      rwa [show done.length + 1 + (skip - 1) = done.length + skip by omega] at hrest
    · obtain rfl : skip = 0 := by omega
      split
      · rename_i inner heq
        obtain ⟨words, after, rfl, hlength, hends⟩ := exists_of_commentLength inner
        have hsize : (commentStart ++ words).length = 4 + commentLength (words ++ after) := by
          rw [hlength, List.length_append]
          rfl
        have hrest := hnext (4 + commentLength (words ++ after) - 1)
        rw [show done.length + 1 + (4 + commentLength (words ++ after) - 1) =
          done.length + (4 + commentLength (words ++ after)) by omega] at hrest
        have hpiece : IsComment (done ++ c :: rest)
            ⟨done.length, done.length + (4 + commentLength (words ++ after))⟩ :=
          ⟨done, words, after, by rw [heq]; rfl, hends, by rw [hsize]⟩
        exact .cons hpiece hrest
      · rename_i hno
        refine .of_succ (hnext 0) fun before after hsplit hlength => ?_
        -- no comment starts right here
        obtain ⟨-, htext⟩ := List.append_inj hsplit hlength.symm
        exact hno after htext

/-- A text has a comment if a comment starts in it. -/
theorem AreComments.ne_nil {text : List Char} {pieces : List Span} (h : AreComments text 0 pieces)
    (hstart : commentStart <:+: text) : pieces ≠ [] := by
  obtain ⟨before, after, htext⟩ := hstart
  obtain ⟨piece, hpiece, -⟩ := h.all before after (by rw [← htext, List.append_assoc]) (Nat.zero_le _)
  exact List.ne_nil_of_mem hpiece

/-- The characters of a piece of a text. -/
def charsOf (text : List Char) (piece : Span) : List Char := (text.drop piece.start).take (piece.stop - piece.start)

/-- A comment does not end in the middle of a line end. -/
theorem IsComment.endsLines {text : List Char} {piece : Span} (h : IsComment text piece) (htext : EndsLines text) :
    EndsLines (charsOf text piece) := by
  obtain ⟨before, inner, after, rfl, hends, rfl⟩ := h
  have hchars : charsOf (before ++ (commentStart ++ (inner ++ after))) ⟨before.length, before.length +
      (commentStart ++ inner).length⟩ = commentStart ++ inner := by
    rw [charsOf, List.drop_left, Nat.add_sub_cancel_left, ← List.append_assoc, List.take_left]
  rw [hchars]
  intro front back heq
  have hnext := htext (before ++ front) (back ++ after) (by
    rw [← List.append_assoc commentStart, heq]
    simp only [List.append_assoc, List.cons_append])
  cases back with
  | cons c back => exact hnext
  | nil =>
    rcases hends with ⟨words, rfl, -⟩ | ⟨rfl, -⟩
    · -- the last character of a comment that ends is no carriage return
      have hlast : (commentStart ++ words ++ ['-', '-']) ++ ['>'] = front ++ ['\r'] := by
        rw [← heq]
        simp [commentStop]
      exact absurd (List.append_inj' hlast rfl).2 (by decide)
    · cases hnext

/-- Some lines end lines with their carriage returns, if these are not in the text of the lines. -/
theorem endsLines_linesText {rows : List Row} {last : Row} (hrows : ∀ row ∈ rows, '\r' ∉ row.text.toList)
    (hlast : '\r' ∉ last.text.toList) : EndsLines (linesText rows last) := by
  induction rows with
  | nil => exact endsLines_of_not_mem hlast
  | cons row rows ih =>
    rw [List.forall_mem_cons] at hrows
    have hrest : EndsLines ('\n' :: linesText rows last) := (ih hrows.2).cons fun hc => absurd hc (by decide)
    have htext : '\r' ∉ Row.dropReturn row.chars := by simpa [Row.text] using hrows.1
    have heq : linesText (row :: rows) last = row.chars ++ '\n' :: linesText rows last := by simp [linesText]
    rw [heq]
    rcases Row.dropReturn_cases row.chars with ⟨hsame, -⟩ | hreturn
    · rw [← hsame]
      exact hrest.append htext
    · rw [hreturn, List.append_assoc]
      exact (hrest.cons fun _ => rfl).append htext

/-- What is computed from each of some lists, one after the other, is computed from all their items. -/
theorem exists_mapM_flatten {ε α β γ : Type} {f : β → Except ε γ} {R : α → List γ → Prop} {items : List α}
    {lists : List (List β)}
    (h : List.Forall₂ (fun item list => ∃ results, list.mapM f = .ok results ∧ R item results) items lists) :
    ∃ results, lists.flatten.mapM f = .ok results.flatten ∧ List.Forall₂ R items results := by
  induction h with
  | nil => exact ⟨[], rfl, .nil⟩
  | cons hfirst _ ih =>
    obtain ⟨first, hfirst, hrel⟩ := hfirst
    obtain ⟨results, hresults, hrels⟩ := ih
    refine ⟨first :: results, ?_, .cons hrel hrels⟩
    rw [List.flatten_cons, List.mapM_append, hfirst, hresults]
    rfl

/-! ### The findings -/

namespace CommentRule

variable {context : Context}

/-- A finding about a comment shows the lines of the comment and marks its characters, without the carriage returns of
line ends. -/
def Reports (rule : CommentRule) (context : Context) (span : Span) (comment : List Char) (snippet : Snippet) : Prop :=
  ∃ (first last : Nat) (source : String) (range : Span),
    context.lines.lineOf span.start = .ok first ∧ context.lines.lineOf span.stop = .ok last ∧
    context.lines.lines first last = .ok source ∧ range.Covers source.toList (comment.filter (· ≠ '\r')) ∧
    snippet = {
      title := {
        label := s!"HTML comments are only allowed while `{rule.name}` is one of: " ++ listStatuses rule.warnFor
        severity := rule.severity context }
      excerpts := [{
        origin := context.document.origin
        lineStart := first
        source
        fold := context.settings.foldThreshold < (last - first + 1 : Int)
        marks := [⟨range, "remove this comment", rule.severity context⟩] }] }

theorem exists_reports (rule : CommentRule) {span : Span} {comment : List Char}
    (h : span.Covers context.lines.source.toList comment) (hreturns : EndsLines comment) :
    ∃ snippet, rule.finding context span = .ok snippet ∧ rule.Reports context span comment snippet := by
  obtain ⟨first, last, source, range, hfirst, hlast, hrange, hsource, hle, hstop, hcovers⟩ :=
    Context.exists_marked h hreturns
  rw [finding, hfirst, hlast]
  dsimp only [PositionError.asRuleError, bind, Except.bind]
  rw [hrange]
  dsimp only
  rw [Context.checkMark_eq hle]
  dsimp only
  rw [Context.linesExcerpt_eq hsource (List.forall_mem_singleton.mpr hstop)]
  exact ⟨_, rfl, first, last, source, range, hfirst, hlast, hsource, hcovers, rfl⟩

/-- What is found in a text that stands in the document: one finding for each comment. -/
theorem exists_reports_text (rule : CommentRule) {span : Span} {text : String}
    (h : span.Covers context.lines.source.toList text.toList) (htext : EndsLines text.toList) :
    ∃ findings, ((commentsFrom 0 0 text.toList).map (bytesOf span.start text)).mapM (rule.finding context) = .ok findings ∧
      List.Forall₂ (fun piece => rule.Reports context (bytesOf span.start text piece) (charsOf text.toList piece))
        (commentsFrom 0 0 text.toList) findings := by
  have hcomments := areComments_commentsFrom 0 [] text.toList
  rw [List.mapM_map]
  refine exists_mapM_eq_ok fun piece hpiece => ?_
  exact rule.exists_reports (h.bytesOf_covers piece) ((hcomments.isComment piece hpiece).endsLines htext)

/-- What the rule finds in a node: one finding for each comment in the text of a node of HTML that has a span, and else
nothing. -/
inductive ReportsNode (rule : CommentRule) (context : Context) (node : Node) : List Snippet → Prop
  | silent : (node.kind = .htmlBlock ∨ node.kind = .html → node.span = none) → ReportsNode rule context node []
  | comments {span : Span} {text : String} {pieces : List Span} {findings : List Snippet} :
      node.kind = .htmlBlock ∨ node.kind = .html → node.span = some span →
      context.lines.slice span.start span.stop = .ok text → AreComments text.toList 0 pieces →
      List.Forall₂ (fun piece => rule.Reports context (bytesOf span.start text piece) (charsOf text.toList piece))
        pieces findings →
      ReportsNode rule context node findings

/-- What the rule finds in a node, and when it finds something in a node in whose content a comment starts: always, if
the node is a block; and if it is a piece of text, whenever it stands on its first line, behind what has been found. -/
structure Completes (rule : CommentRule) (context : Context) (node : Node) (findings : List Snippet) : Prop where
  reports : rule.ReportsNode context node findings
  block : node.kind = .htmlBlock → commentStart <:+: node.content.toList → findings ≠ []
  piece : node.kind = .html → commentStart <:+: node.content.toList →
    (findings ≠ [] ↔ context.body.IsExposed context.lines node)

theorem commentsOf_eq {node : Node} {span : Span} {text : String} (hkind : node.kind = .htmlBlock ∨ node.kind = .html)
    (hspan : node.span = some span) (htext : context.lines.slice span.start span.stop = .ok text) :
    commentsOf context node = .ok ((commentsFrom 0 0 text.toList).map (bytesOf span.start text)) := by
  rcases hkind with hkind | hkind <;>
  · rw [commentsOf.eq_def, hkind, hspan]
    dsimp only
    rw [htext]
    rfl

theorem commentsOf_silent {node : Node} (h : node.kind = .htmlBlock ∨ node.kind = .html → node.span = none) :
    commentsOf context node = .ok [] := by
  rw [commentsOf.eq_def]
  split
  · rename_i hkind hspan
    rw [h (.inl hkind)] at hspan
    cases hspan
  · rename_i hkind hspan
    rw [h (.inr hkind)] at hspan
    cases hspan
  · rfl

/-- The comments in a node give findings, which are what the rule finds in it. -/
def Answers (rule : CommentRule) (context : Context) (node : Node) (spans : List Span) : Prop :=
  ∃ findings, spans.mapM (rule.finding context) = .ok findings ∧ rule.Completes context node findings

theorem exists_answers_of_covers (rule : CommentRule) {node : Node} {span : Span} {text : String}
    (hkind : node.kind = .htmlBlock ∨ node.kind = .html) (hspan : node.span = some span)
    (hcovers : span.Covers context.lines.source.toList text.toList) (hends : EndsLines text.toList) :
    ∃ spans findings, commentsOf context node = .ok spans ∧ spans.mapM (rule.finding context) = .ok findings ∧
      rule.ReportsNode context node findings ∧ (commentStart <:+: text.toList → findings ≠ []) := by
  obtain ⟨findings, hfindings, hreports⟩ := rule.exists_reports_text hcovers hends
  have hcomments := areComments_commentsFrom 0 [] text.toList
  refine ⟨_, findings, commentsOf_eq hkind hspan hcovers.slice_eq, hfindings,
    .comments hkind hspan hcovers.slice_eq hcomments hreports, fun hstart hnil => ?_⟩
  rw [hnil, List.forall₂_nil_right_iff] at hreports
  exact hcomments.ne_nil hstart hreports

variable {text : String} {origin : Option String} {node : Node}

theorem exists_answers_of_silent (rule : CommentRule)
    (hsilent : node.kind = .htmlBlock ∨ node.kind = .html → node.span = none) (hblock : node.kind ≠ .htmlBlock)
    (hexposed : node.kind = .html → commentStart <:+: node.content.toList → ¬ context.body.IsExposed context.lines node) :
    ∃ spans, commentsOf context node = .ok spans ∧ rule.Answers context node spans :=
  ⟨[], commentsOf_silent hsilent, [], rfl, .silent hsilent, fun hkind => absurd hkind hblock,
    fun hkind hstart => iff_of_false (fun hne => hne rfl) (hexposed hkind hstart)⟩

/-- A block of HTML has a span, and what it shows has the comments of its content. -/
theorem exists_answers_of_block (rule : CommentRule) (h : Document.ofString text origin = .ok context.document)
    (hplain : Document.HasPlainBody text) (hnode : node ∈ context.body.nodes) (hblock : node.kind = .htmlBlock) :
    ∃ spans, commentsOf context node = .ok spans ∧ rule.Answers context node spans := by
  obtain ⟨span, rows, row, hspan, hcovers, hreturns, hneedles⟩ := Document.exists_linesText_of_html h hplain hnode hblock
  rw [List.forall_mem_cons] at hreturns
  have hends := endsLines_linesText hreturns.2 hreturns.1
  obtain ⟨shown, hshown⟩ : ∃ shown : String, shown.toList = linesText rows row := ⟨_, String.toList_ofList⟩
  rw [← hshown] at hcovers hends
  obtain ⟨spans, findings, hspans, hfindings, hreports, hne⟩ :=
    rule.exists_answers_of_covers (.inl hblock) hspan hcovers hends
  refine ⟨spans, hspans, findings, hfindings, hreports, fun _ hstart => hne ?_, fun hkind => ?_⟩
  · rw [hshown]
    exact hneedles commentStart isSolid_commentStart (by decide) hstart
  · rw [hblock] at hkind
    cases hkind

/-- A piece of HTML that starts a comment has a span if and only if it is exposed. -/
theorem exists_answers_of_piece (rule : CommentRule) (h : Document.ofString text origin = .ok context.document)
    (hplain : Document.HasPlainBody text) (hnode : node ∈ context.body.nodes) (hhtml : node.kind = .html) :
    ∃ spans, commentsOf context node = .ok spans ∧ rule.Answers context node spans := by
  have hblock : node.kind ≠ .htmlBlock := by
    rw [hhtml]
    decide
  have hword : node.kind.isWord := by
    rw [hhtml]
    rfl
  have hfound : commentStart <:+: node.content.toList →
      (node.span.isSome ↔ context.body.IsExposed context.lines node) := fun hstart =>
    Document.isSome_span_iff h hnode hword fun hempty => by simp [hempty, commentStart] at hstart
  -- without a span the rule finds nothing, and the piece is not exposed
  cases hspan : node.span with
  | none =>
    rw [hspan] at hfound
    exact rule.exists_answers_of_silent (fun _ => hspan) hblock fun _ hstart hexposed =>
      absurd ((hfound hstart).mpr hexposed) (by decide)
  | some span =>
    rw [hspan] at hfound
    obtain ⟨first, last, row, -, hrow, hholds⟩ := (Document.hasTree_of_ofString h).isHeld hnode hword span hspan
    obtain ⟨spans, findings, hspans, hfindings, hreports, hne⟩ :=
      rule.exists_answers_of_covers (.inr hhtml) hspan (hholds.covers hrow)
        (endsLines_of_not_mem (Document.return_not_mem_content h hplain hnode hword hspan))
    exact ⟨spans, hspans, findings, hfindings, hreports, fun hkind => absurd hkind hblock,
      fun _ hstart => iff_of_true (hne hstart) ((hfound hstart).mp rfl)⟩

theorem exists_answers (rule : CommentRule) (h : Document.ofString text origin = .ok context.document)
    (hplain : Document.HasPlainBody text) (hnode : node ∈ context.body.nodes) :
    ∃ spans, commentsOf context node = .ok spans ∧ rule.Answers context node spans := by
  by_cases hblock : node.kind = .htmlBlock
  · exact rule.exists_answers_of_block h hplain hnode hblock
  by_cases hhtml : node.kind = .html
  · exact rule.exists_answers_of_piece h hplain hnode hhtml
  · exact rule.exists_answers_of_silent (fun hkind => (not_or.mpr ⟨hblock, hhtml⟩ hkind).elim) hblock
      fun hkind => absurd hkind hhtml

/-- Node by node, the rule reports the comments in what the nodes of HTML show. So no comment in a block is missed, and
one between words is reported if and only if it is exposed. -/
theorem check_comments (rule : CommentRule) (h : Document.ofString text origin = .ok context.document)
    (hplain : Document.HasPlainBody text) :
    ∃ findings : List (List Snippet), rule.check context = .ok findings.flatten ∧
      List.Forall₂ (rule.Completes context) context.body.nodes.toList findings := by
  obtain ⟨found, hfound, hanswers⟩ := exists_mapM_eq_ok fun node hnode =>
    rule.exists_answers h hplain (Array.mem_toList_iff.mp hnode)
  obtain ⟨findings, hfindings, hcompletes⟩ := exists_mapM_flatten hanswers
  refine ⟨findings, ?_, hcompletes⟩
  have hall : context.body.all = context.body.nodes.toList := (Document.hasTree_of_ofString h).all_eq
  rw [check, hall, hfound]
  exact hfindings

/-- Two comments on a line. -/
theorem check_comments_line :
    let rule : CommentRule := ⟨"status", ["Draft"]⟩
    let text := "---\na: b\n---\né <!-- c --> d <!--e-->"
    Document.HasPlainBody text ∧ ∃ document, Document.ofString text none = .ok document ∧
      ∃ findings : List (List Snippet), rule.check ⟨document, {}⟩ = .ok findings.flatten ∧
        findings.flatten.flatMap (·.excerpts.flatMap fun excerpt => excerpt.marks.map fun mark =>
          (excerpt.source, mark.range)) =
          [("é <!-- c --> d <!--e-->", ⟨3, 13⟩), ("é <!-- c --> d <!--e-->", ⟨16, 24⟩)] ∧
        List.Forall₂ (rule.Completes ⟨document, {}⟩) document.body.nodes.toList findings := by
  intro rule text
  have hplain : Document.HasPlainBody text :=
    @Document.hasPlainBody_of_parse text 3 (by decide +kernel) (by decide +kernel)
  obtain ⟨document, hdocument, -, hmarks⟩ := Document.exists_of_map_ofString
    (f := fun document => (rule.check ⟨document, {}⟩).toOption.map fun found => found.flatMap
      (·.excerpts.flatMap fun excerpt => excerpt.marks.map fun mark => (excerpt.source, mark.range)))
    (show (Document.ofString text none).map _ =
      .ok (some [("é <!-- c --> d <!--e-->", ⟨3, 13⟩), ("é <!-- c --> d <!--e-->", ⟨16, 24⟩)]) by decide +kernel)
  obtain ⟨findings, hcheck, hcompletes⟩ := @check_comments ⟨document, {}⟩ text none rule hdocument hplain
  rw [hcheck] at hmarks
  exact ⟨hplain, document, hdocument, findings, hcheck, Option.some.inj hmarks, hcompletes⟩

/-- A comment that goes on over a line end within a paragraph has no span, so it is not reported. -/
theorem not_check_comments_lines :
    ¬∀ (rule : CommentRule) (context : Context) (text : String) (origin : Option String),
      Document.ofString text origin = .ok context.document → Document.HasPlainBody text →
      ∀ node ∈ context.body.nodes, node.kind = .htmlBlock ∨ node.kind = .html →
        commentStart <:+: node.content.toList →
        ∃ snippets, rule.check context = .ok snippets ∧ snippets ≠ [] := by
  intro hall
  let rule : CommentRule := ⟨"status", ["Draft"]⟩
  let text := "---\nstatus: Final\n---\nx <!-- a\nb -->"
  have hplain : Document.HasPlainBody text :=
    @Document.hasPlainBody_of_parse text 3 (by decide +kernel) (by decide +kernel)
  obtain ⟨document, hdocument, -, hfacts⟩ := Document.exists_of_map_ofString
    (f := fun document => (document.body.nodes.any fun node => node.kind = .html && node.content = "<!-- a\nb -->",
      (rule.check ⟨document, {}⟩).toOption))
    (show (Document.ofString text none).map _ = .ok (true, some []) by decide +kernel)
  obtain ⟨hany, hnone⟩ := Prod.mk.inj hfacts
  obtain ⟨node, hnode, hhtml⟩ := Array.any_eq_true'.mp hany
  rw [Bool.and_eq_true, decide_eq_true_eq, decide_eq_true_eq] at hhtml
  obtain ⟨hkind, hcontent⟩ := hhtml
  obtain ⟨snippets, hsnippets, hne⟩ := hall rule ⟨document, {}⟩ text none hdocument hplain node hnode (.inr hkind)
    (by rw [hcontent]; exact ⟨[], " a\nb -->".toList, by decide⟩)
  rw [hsnippets] at hnone
  exact hne (Option.some.inj hnone)

end CommentRule

end ProposalCheck

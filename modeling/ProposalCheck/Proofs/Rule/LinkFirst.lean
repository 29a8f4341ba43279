import ProposalCheck.Proofs.Document.Numbering
import ProposalCheck.Proofs.Lint.Valid
import ProposalCheck.Proofs.Rule.Destination

/-!
# What is mentioned before it is linked

The rule goes through the nodes once, and keeps the matches in the texts of the links that it has met. Nodes are
numbered in order, so these are the links with smaller indices, and the rule finds what can be said without a pass:
the matches in plain text for which there is no link before that has an equal match in its text. Whether a text is
plain is found out on the way up from it, which is as long as the chain of the nodes above it.

## Main definitions

* `LinkFirstRule.mentions`: the matches in the contents of all nodes
* `LinkFirstRule.IsUnlinked`: a match in plain text with no link before it
* `LinkFirstRule.Reports`: a finding about a match

## Main results

* `LinkFirstRule.isCovered_iff`: a text is covered if a link, an image or a heading is above it
* `LinkFirstRule.unlinked_eq`: one pass finds the matches with no link before them
* `LinkFirstRule.checkWith_exact`: the rule reports these, each once and in order
-/

namespace ProposalCheck

/-- Some characters of a text that stands in a row stand there, too. -/
theorem Row.Holds.bytesOf {row : Row} {span : Span} {text : String} (h : row.Holds span text) (piece : Span) :
    row.Holds (ProposalCheck.bytesOf span.start text piece) (LinkFirstRule.pieceText text piece) := by
  obtain ⟨range, hcovers, rfl⟩ := h
  refine ⟨ProposalCheck.bytesOf range.start text piece, ?_, ?_⟩
  · rw [LinkFirstRule.pieceText, String.toList_ofList]
    exact hcovers.bytesOf_covers piece
  · simp only [ProposalCheck.bytesOf, Nat.add_assoc]

/-- Is a node a link, an image or a heading? -/
def Node.isCover (node : Node) : Bool := node.destination?.isSome || node.level?.isSome

namespace Body

variable {body : Body} {node other : Node} {front rest : List Node}

/-- The nodes before a node are those with smaller indices. -/
theorem IsTree.mem_front_iff (h : body.IsTree) (hnodes : body.nodes.toList = front ++ node :: rest)
    (hother : other ∈ body.nodes) : other ∈ front ↔ other.index < node.index := by
  have hat : ∀ i, body.nodes[i]? = (front ++ node :: rest)[i]? := fun i => by rw [← Array.getElem?_toList, hnodes]
  have hnode : node.index = front.length := (h.getElem?_iff.mp ((hat front.length).trans (by simp))).2
  have hindex := (hat _).symm.trans (h.getElem?_index hother)
  constructor
  · intro hmem
    obtain ⟨i, hi⟩ := List.getElem?_of_mem hmem
    have hlt := (List.getElem?_eq_some_iff.mp hi).1
    have hsame : (front ++ node :: rest)[i]? = front[i]? := List.getElem?_append_left hlt
    rw [← hsame, ← hat] at hi
    rw [(h.getElem?_iff.mp hi).2, hnode]
    exact hlt
  · intro hlt
    rw [List.getElem?_append_left (hnode ▸ hlt)] at hindex
    exact List.mem_of_getElem? hindex

end Body

namespace LinkFirstRule

variable {body : Body} {search : Search} {node : Node} {nodes front : List Node} {linked : List String}
  {context : Context}

/-! ### The way up -/

/-- What is right below a node is covered by the node, or by what covers the node. -/
theorem isCovered_succ {parent : Nat} {holder : Node} (h : body.nodes[parent]? = some holder) (fuel : Nat) :
    isCovered body (fuel + 1) (some parent) = (holder.isCover || isCovered body fuel holder.parent) := by
  rw [isCovered, h, Node.isCover, Node.destination?, Node.level?]
  dsimp only
  cases holder.kind <;> rfl

/-- A text is covered if a link, an image or a heading is above it. -/
theorem isCovered_iff (h : body.IsTree) {fuel : Nat} (hnode : node ∈ body.nodes) (hfuel : node.index ≤ fuel) :
    isCovered body fuel node.parent ↔
      ∃ cover ∈ body.nodes, cover.isCover ∧ Relation.TransGen body.IsParent cover.index node.index := by
  induction fuel generalizing node with
  | zero =>
    -- only the first node has the index 0, and nothing is above it
    refine iff_of_false (by simp [isCovered]) ?_
    rintro ⟨cover, -, -, habove⟩
    obtain ⟨parent, -, hparent⟩ := Relation.TransGen.tail'_iff.mp habove
    have := h.parent_lt hparent
    omega
  | succ fuel ih =>
    rcases h.parent_cases hnode with ⟨hnone, hzero⟩ | ⟨holder, hholder, hparent, -, hlt⟩
    · refine iff_of_false (by simp [hnone, isCovered]) ?_
      rintro ⟨cover, -, -, habove⟩
      obtain ⟨parent, -, hparent⟩ := Relation.TransGen.tail'_iff.mp habove
      have := h.parent_lt hparent
      omega
    · have hstep : ∀ index, body.IsParent index node.index ↔ index = holder.index := by
        intro index
        simp only [Body.IsParent, h.getElem?_index hnode, hparent, Option.some.injEq, exists_eq_left']
        exact eq_comm
      have habove : ∀ cover : Node, Relation.TransGen body.IsParent cover.index node.index ↔
          cover.index = holder.index ∨ Relation.TransGen body.IsParent cover.index holder.index := by
        intro cover
        rw [Relation.TransGen.tail'_iff]
        simp only [hstep, exists_eq_right, Relation.reflTransGen_iff_eq_or_transGen, eq_comm]
      rw [hparent, isCovered_succ (h.getElem?_index hholder), Bool.or_eq_true, ih hholder (by omega)]
      simp only [habove]
      constructor
      · rintro (hcover | ⟨cover, hmem, hcover, habove⟩)
        · exact ⟨holder, hholder, hcover, .inl rfl⟩
        · exact ⟨cover, hmem, hcover, .inr habove⟩
      · rintro ⟨cover, hmem, hcover, heq | habove⟩
        · exact .inl (h.eq_of_index_eq hmem hholder heq ▸ hcover)
        · exact .inr ⟨cover, hmem, hcover, habove⟩

/-- Is a node below no link, no image and no heading, and none of these itself? -/
def IsPlain (body : Body) (node : Node) : Prop :=
  ∀ cover ∈ body.nodes, cover.isCover → ¬body.IsBelow cover.index node.index

theorem isPlain_iff (h : body.IsTree) (hnode : node ∈ body.nodes) (hkind : node.kind = .text) :
    IsPlain body node ↔ isCovered body body.nodes.size node.parent = false := by
  have hsize : node.index < body.nodes.size := (Array.getElem?_eq_some_iff.mp (h.getElem?_index hnode)).1
  rw [← Bool.not_eq_true, isCovered_iff h hnode (Nat.le_of_lt hsize), IsPlain]
  constructor
  · rintro hplain ⟨cover, hmem, hcover, habove⟩
    exact hplain cover hmem hcover habove.to_reflTransGen
  · intro hnone cover hmem hcover hbelow
    rcases Relation.reflTransGen_iff_eq_or_transGen.mp hbelow with heq | habove
    · obtain rfl := h.eq_of_index_eq hnode hmem heq
      simp [Node.isCover, Node.destination?, Node.level?, hkind] at hcover
    · exact hnone ⟨cover, hmem, hcover, habove⟩

/-! ### The pass over the nodes -/

/-- The matches in the contents of some nodes, each with its node. -/
def mentions (search : Search) (nodes : List Node) : List (Node × Span) :=
  nodes.flatMap fun node => (search node.content).map (node, ·)

/-- Is there, before a node, a link with a match in its text that equals a word but for case? -/
def IsLinkedBefore (search : Search) (body : Body) (node : Node) (word : String) : Prop :=
  ∃ link ∈ body.nodes, Body.isLink link ∧ link.index < node.index ∧
    ∃ piece ∈ search (body.textOf link), upperCase (pieceText (body.textOf link) piece) = upperCase word

/-- A match in the content of a text. Neither a link nor an image nor a heading is above the text, and no link before it
has a match in its text that is equal but for case. -/
structure IsUnlinked (search : Search) (body : Body) (entry : Node × Span) : Prop where
  kind : entry.1.kind = .text
  plain : IsPlain body entry.1
  first : ¬IsLinkedBefore search body entry.1 (pieceText entry.1.content entry.2)

/-- The matches in the texts of the links among some nodes, in upper case. -/
def linkedWords (search : Search) (body : Body) (nodes : List Node) : List String :=
  (nodes.filter Body.isLink).flatMap fun link =>
    (search (body.textOf link)).map fun piece => upperCase (pieceText (body.textOf link) piece)

theorem linkedWords_append (nodes others : List Node) :
    linkedWords search body (nodes ++ others) = linkedWords search body nodes ++ linkedWords search body others := by
  rw [linkedWords, List.filter_append, List.flatMap_append]
  rfl

/-- The links that have been met are those before the node. -/
theorem mem_linkedWords_iff (h : body.IsTree) {rest : List Node} (hnodes : body.nodes.toList = front ++ node :: rest)
    (word : String) : upperCase word ∈ linkedWords search body front ↔ IsLinkedBefore search body node word := by
  have hfront : ∀ link, link ∈ front ↔ link ∈ body.nodes ∧ link.index < node.index := by
    intro link
    constructor
    · intro hlink
      have hmem : link ∈ body.nodes := by
        rw [← Array.mem_toList_iff, hnodes]
        exact List.mem_append_left _ hlink
      exact ⟨hmem, (h.mem_front_iff hnodes hmem).mp hlink⟩
    · rintro ⟨hmem, hlt⟩
      exact (h.mem_front_iff hnodes hmem).mpr hlt
  simp only [linkedWords, List.mem_flatMap, List.mem_filter, List.mem_map, hfront, IsLinkedBefore]
  constructor
  · rintro ⟨link, ⟨⟨hmem, hlt⟩, hlink⟩, hpiece⟩
    exact ⟨link, hmem, hlink, hlt, hpiece⟩
  · rintro ⟨link, hmem, hlink, hlt, hpiece⟩
    exact ⟨link, ⟨⟨hmem, hlt⟩, hlink⟩, hpiece⟩

/-- In a text, the matches that are left are those that no link met before has, if nothing covers the text. -/
theorem filter_isUnlinked_eq (h : body.IsTree) {isUnlinked : Node × Span → Bool}
    (hunlinked : ∀ entry, isUnlinked entry ↔ IsUnlinked search body entry) {rest : List Node}
    (hnodes : body.nodes.toList = front ++ node :: rest) (hkind : node.kind = .text) :
    (search node.content).filter (isUnlinked ∘ (node, ·)) =
      if isCovered body body.nodes.size node.parent then []
      else (search node.content).filter fun piece =>
        !(linkedWords search body front).contains (upperCase (pieceText node.content piece)) := by
  have hmem : node ∈ body.nodes := by
    rw [← Array.mem_toList_iff, hnodes]
    exact List.mem_append_right _ List.mem_cons_self
  cases hcovered : isCovered body body.nodes.size node.parent with
  | true =>
    refine List.filter_eq_nil_iff.mpr fun piece _ hpiece => ?_
    have hplain := (isPlain_iff h hmem hkind).mp ((hunlinked _).mp hpiece).plain
    rw [hcovered] at hplain
    cases hplain
  | false =>
    have hplain := (isPlain_iff h hmem hkind).mpr hcovered
    refine List.filter_congr fun piece _ => Bool.eq_iff_iff.mpr ?_
    rw [Function.comp_apply, hunlinked, Bool.not_eq_true', ← Bool.not_eq_true, List.contains_iff_mem,
      mem_linkedWords_iff h hnodes]
    exact ⟨fun hentry => hentry.first, fun hfirst => ⟨hkind, hplain, hfirst⟩⟩

/-- One pass finds the matches in plain text with no link before them. -/
theorem unlinked_eq (h : body.IsTree) {isUnlinked : Node × Span → Bool}
    (hunlinked : ∀ entry, isUnlinked entry ↔ IsUnlinked search body entry) (hnodes : body.nodes.toList = front ++ nodes) :
    unlinked search body (linkedWords search body front) nodes = (mentions search nodes).filter isUnlinked := by
  induction nodes generalizing front with
  | nil => rfl
  | cons node rest ih =>
    have hrest := ih (show body.nodes.toList = (front ++ [node]) ++ rest by rw [hnodes, List.append_assoc]; rfl)
    rw [linkedWords_append] at hrest
    -- the matches in this node come first, and they are found in texts only
    rw [mentions, List.flatMap_cons, List.filter_append, ← mentions, ← hrest, List.filter_map]
    have hnone : node.kind ≠ .text → (search node.content).filter (isUnlinked ∘ (node, ·)) = [] := fun hkind =>
      List.filter_eq_nil_iff.mpr fun piece _ hpiece => hkind ((hunlinked _).mp hpiece).kind
    rw [unlinked.eq_def]
    dsimp only
    split
    · rename_i destination hkind
      rw [hnone (by simp [hkind])]
      simp [linkedWords, Body.isLink, hkind]
    · rename_i hkind
      have hword : linkedWords search body [node] = [] := by simp [linkedWords, Body.isLink, hkind]
      rw [filter_isUnlinked_eq h hunlinked hnodes hkind, hword, List.append_nil]
    · rename_i hlink htext
      have hno : Body.isLink node = false := by
        rw [Body.isLink]
        split
        · exact (hlink _ ‹_›).elim
        · rfl
      have hword : linkedWords search body [node] = [] := by simp [linkedWords, hno]
      rw [hnone htext, hword, List.append_nil]
      rfl

/-! ### The findings -/

/-- A finding about a match marks it on the first line of its node. If the text has a span, exactly the bytes of the
match are marked. -/
def Reports (rule : LinkFirstRule) (context : Context) (entry : Node × Span) (snippet : Snippet) : Prop :=
  ∃ first last excerpt mark, entry.1.lines = some (first, last) ∧
    snippet = .about "the first match of the given pattern must be a link" excerpt [patternNote rule.pattern] ∧
    excerpt.lineStart = first ∧ excerpt.marks = [mark] ∧
    mark.label = s!"`{pieceText entry.1.content entry.2}` is not linked yet" ∧
    ∀ span, entry.1.span = some span → excerpt.Pins context.lines first
      (bytesOf span.start entry.1.content entry.2) (pieceText entry.1.content entry.2)

theorem exists_reports (rule : LinkFirstRule) (h : context.HoldsNodes) (entry : Node × Span)
    (hnode : entry.1 ∈ context.body.nodes) (hkind : entry.1.kind = .text) {first last : Nat}
    (hlines : entry.1.lines = some (first, last)) :
    ∃ snippet, rule.finding context entry.1 first entry.2 = .ok snippet ∧ rule.Reports context entry snippet := by
  obtain ⟨node, piece⟩ := entry
  dsimp only at hnode hkind hlines ⊢
  rw [finding]
  cases hspan : node.span with
  | none =>
    -- the whole line is marked in place of the match
    obtain ⟨source, hline, range, hrange, hwithin⟩ := h.nodeRange hnode hlines
    dsimp only
    rw [hrange]
    dsimp only [bind, Except.bind]
    rw [Context.checkMark_eq hwithin.le]
    dsimp only
    rw [Context.lineExcerpt_eq hline (List.forall_mem_singleton.mpr hwithin.stop_le)]
    exact ⟨_, rfl, first, last, _, _, hlines, rfl, rfl, rfl, rfl, by simp [hspan]⟩
  | some span =>
    obtain ⟨line, _, row, hfirst, hrow, hholds⟩ := h.hasTree.isHeld hnode (by simp [hkind, Markdown.Kind.isWord]) span hspan
    obtain ⟨rfl, rfl⟩ := Prod.mk.inj (Option.some.inj (hlines.symm.trans hfirst))
    obtain ⟨range, mark, excerpt, hrange, hmark, hlabel, hexcerpt, hmarks, hpins⟩ :=
      Context.lineExcerpt_pins hrow (hholds.bytesOf piece) s!"`{pieceText node.content piece}` is not linked yet"
    dsimp only
    rw [hrange]
    dsimp only [PositionError.asRuleError, bind, Except.bind]
    rw [hmark]
    dsimp only
    rw [hexcerpt]
    refine ⟨_, rfl, first, last, excerpt, mark, hlines, rfl, hpins.1, hmarks, hlabel, ?_⟩
    rintro other hother
    obtain rfl := Option.some.inj (hspan.symm.trans hother)
    exact hpins

/-- If a computation gives one result for some items of a list and nothing for the others, it gives a result for each
of these. -/
theorem exists_flatten {ε α β : Type} {f : α → Except ε (List β)} {p : α → Bool} {R : α → β → Prop} {items : List α}
    (hsome : ∀ item ∈ items, p item → ∃ result, f item = .ok [result] ∧ R item result)
    (hnone : ∀ item ∈ items, ¬p item → f item = .ok []) :
    ∃ results, (do return (← items.mapM f).flatten : Except ε (List β)) = .ok results ∧
      List.Forall₂ R (items.filter p) results := by
  induction items with
  | nil => exact ⟨[], rfl, .nil⟩
  | cons item items ih =>
    obtain ⟨hitem, hsome⟩ := List.forall_mem_cons.mp hsome
    obtain ⟨hskip, hnone⟩ := List.forall_mem_cons.mp hnone
    obtain ⟨results, hresults, hrel⟩ := ih hsome hnone
    obtain ⟨lists, hlists, hflat⟩ := exists_of_bind_eq_ok hresults
    obtain rfl := Except.ok.inj hflat
    rw [List.mapM_cons, hlists]
    -- by induction on the items, of which each adds one result or none
    by_cases hp : p item
    · obtain ⟨result, hresult, hspec⟩ := hitem hp
      rw [hresult, List.filter_cons_of_pos hp]
      exact ⟨_, rfl, .cons hspec hrel⟩
    · rw [hskip hp, List.filter_cons_of_neg hp]
      exact ⟨_, rfl, hrel⟩

/-- The rule reports the matches in texts that have a line, each once and in the order of the document, if neither a
link nor an image nor a heading is above the text and no link before it has an equal match in its text. -/
theorem checkWith_exact (rule : LinkFirstRule) (search : Search) (h : context.HoldsNodes) :
    ∃ (isReported : Node × Span → Bool) (findings : List Snippet),
      (∀ entry, isReported entry ↔ entry.1.lines.isSome ∧ IsUnlinked search context.body entry) ∧
      rule.checkWith search context = .ok findings ∧
      List.Forall₂ (rule.Reports context) ((mentions search context.body.nodes.toList).filter isReported) findings := by
  classical
  let isUnlinked : Node × Span → Bool := fun entry => decide (IsUnlinked search context.body entry)
  have hunlinked : ∀ entry, isUnlinked entry ↔ IsUnlinked search context.body entry := fun entry => decide_eq_true_iff
  have htree : context.body.IsTree := h.hasTree.isTree
  -- the pass finds the matches that are not linked; those without a line are dropped only behind it
  have hpass : unlinked search context.body [] context.body.nodes.toList =
      (mentions search context.body.nodes.toList).filter isUnlinked :=
    unlinked_eq htree hunlinked (List.nil_append _).symm
  obtain ⟨findings, hfindings, hreports⟩ : ∃ findings, rule.checkWith search context = .ok findings ∧ List.Forall₂
      (rule.Reports context) (((mentions search context.body.nodes.toList).filter isUnlinked).filter (·.1.lines.isSome))
      findings := by
    rw [checkWith, htree.all_eq, hpass]
    refine exists_flatten (fun entry hentry hline => ?_) fun entry _ hline => ?_
    · obtain ⟨hmention, hunlinkedEntry⟩ := List.mem_filter.mp hentry
      obtain ⟨node, hnode, hpiece⟩ := List.mem_flatMap.mp hmention
      obtain ⟨piece, -, rfl⟩ := List.mem_map.mp hpiece
      obtain ⟨⟨first, last⟩, hlines⟩ := Option.isSome_iff_exists.mp hline
      obtain ⟨snippet, hfinding, hreports⟩ := rule.exists_reports h (node, piece)
        (Array.mem_toList_iff.mp hnode) ((hunlinked _).mp hunlinkedEntry).kind hlines
      refine ⟨snippet, ?_, hreports⟩
      dsimp only at hlines hfinding ⊢
      rw [hlines]
      dsimp only
      rw [hfinding]
      rfl
    · dsimp only
      rw [Option.not_isSome_iff_eq_none.mp hline]
  refine ⟨fun entry => entry.1.lines.isSome && isUnlinked entry, findings, fun entry => ?_, hfindings, ?_⟩
  · rw [Bool.and_eq_true, hunlinked]
  · rwa [List.filter_filter] at hreports

/-- Of three mentions the first is in a heading and the last in an image. The one between them is reported. -/
theorem checkWith_exact_plain :
    let rule : LinkFirstRule := ⟨"x"⟩
    let search : Search := fun text => (text.toList.findIdx? (· = 'x')).toList.map fun place => ⟨place, place + 1⟩
    ∃ document findings, Document.ofString "---\na: b\n---\n# x\n\n[y](z) é x ![x](u)" none = .ok document ∧
      Context.HoldsNodes ⟨document, {}⟩ ∧ rule.checkWith search ⟨document, {}⟩ = .ok findings ∧
      findings.flatMap (·.excerpts.flatMap fun excerpt => excerpt.marks.map fun mark => (excerpt.source, mark.range)) =
        [("[y](z) é x ![x](u)", ⟨10, 11⟩)] ∧
      ∃ isReported : Node × Span → Bool,
        (∀ entry, isReported entry ↔ entry.1.lines.isSome ∧ IsUnlinked search document.body entry) ∧
        List.Forall₂ (rule.Reports ⟨document, {}⟩) ((mentions search document.body.nodes.toList).filter isReported)
          findings := by
  intro rule search
  obtain ⟨document, hdocument, -, hfacts⟩ := Document.exists_of_map_ofString
    (f := fun document => (Context.holdsLines document, (rule.checkWith search ⟨document, {}⟩).toOption.map fun found =>
      found.flatMap (·.excerpts.flatMap fun excerpt => excerpt.marks.map fun mark => (excerpt.source, mark.range))))
    (show (Document.ofString "---\na: b\n---\n# x\n\n[y](z) é x ![x](u)" none).map _ =
      .ok (true, some [("[y](z) é x ![x](u)", ⟨10, 11⟩)]) by decide +kernel)
  obtain ⟨hlines, hmarks⟩ := Prod.mk.inj hfacts
  have hnodes : Context.HoldsNodes ⟨document, {}⟩ :=
    Context.holdsNodes_of_holdsLines (Document.hasTree_of_ofString hdocument) hlines
  obtain ⟨isReported, findings, hreported, hcheck, hreports⟩ := rule.checkWith_exact search hnodes
  rw [hcheck] at hmarks
  exact ⟨document, findings, hdocument, hnodes, hcheck, Option.some.inj hmarks, isReported, hreported, hreports⟩

end LinkFirstRule

end ProposalCheck

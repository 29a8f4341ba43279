import ProposalCheck.Proofs.Document.Destination
import ProposalCheck.Proofs.Lint.Line
import ProposalCheck.Proofs.Lint.Query
import ProposalCheck.Rule.Basic

/-!
# Findings about links show the destination

Three rules report links and images. Each finding is about one node: it shows the first line of the node and marks
what stands there of its span. The span holds the destination and stands on the last line of the node. So exactly the
destination is marked if and only if the text of the link does not go over several lines.

## Main definitions

* `Yields`: whatever a computation returns has a property
* `Snippet.IsAbout`: a finding is about a node
* `Excerpt.Pins`: an excerpt is a line in which exactly the bytes of a span are marked

## Main results

* `Context.lineRange_eq`: a span of a line in an excerpt of the line
* `Snippet.IsAbout.pins_iff`: a finding about a link marks the destination if the link is on one line
* `Rule.check_pins`: so do the rules about links and images
-/

namespace ProposalCheck

open Markdown

/-! ### Computations whose results have a property -/

/-- Whatever a computation returns has a property. -/
def Yields {ε α : Type} (p : α → Prop) (computation : Except ε α) : Prop :=
  ∀ value, computation = .ok value → p value

namespace Yields

variable {ε α β : Type} {p : α → Prop} {q : β → Prop}

theorem ok {value : α} (h : p value) : Yields p (.ok value : Except ε α) := by
  intro other heq
  obtain rfl := Except.ok.inj heq
  exact h

theorem bind {first : Except ε α} {next : α → Except ε β} (h : ∀ value, first = .ok value → Yields q (next value)) :
    Yields q (first >>= next) := by
  intro result heq
  obtain ⟨value, hvalue, hresult⟩ := exists_of_bind_eq_ok heq
  exact h value hvalue result hresult

/-- A computation for each item of a list yields what it yields for each. -/
theorem mapM {f : α → Except ε β} {items : List α} (h : ∀ item ∈ items, Yields q (f item)) :
    Yields (∀ result ∈ ·, q result) (items.mapM f) := by
  induction items with
  | nil => exact ok (List.forall_mem_nil _)
  | cons item items ih =>
    rw [List.mapM_cons]
    refine bind fun result hresult => bind fun results hresults => ok (List.forall_mem_cons.mpr ⟨?_, ?_⟩)
    · exact h item List.mem_cons_self result hresult
    · exact ih (fun other hother => h other (List.mem_cons_of_mem _ hother)) results hresults

/-- What is found for each item of a list has a property together. -/
theorem flatten {f : α → Except ε (List β)} {items : List α} (h : ∀ item ∈ items, Yields (∀ result ∈ ·, q result) (f item)) :
    Yields (∀ result ∈ ·, q result) (do return (← items.mapM f).flatten) := by
  refine bind fun results hresults => ok fun result hresult => ?_
  obtain ⟨part, hpart, hmem⟩ := List.mem_flatten.mp hresult
  exact mapM h results hresults part hpart result hmem

end Yields

/-! ### Findings about a node -/

variable {context : Context} {node : Node} {destination : String} {span : Span} {snippet : Snippet}

/-- A finding is about a node: it shows the first line of the node with a mark on what stands there of the node, or
nothing if the node has no lines. -/
def Snippet.IsAbout (context : Context) (node : Node) (snippet : Snippet) : Prop :=
  match node.lines with
  | none => snippet.excerpts = []
  | some (first, _) => ∃ label excerpt, context.nodeExcerpt node first label = .ok excerpt ∧ snippet.excerpts = [excerpt]

/-- An excerpt is a line of a document with one mark. What is marked is exactly the text `text`, and these are the
bytes of `span`. -/
def Excerpt.Pins (lines : Lines) (line : Nat) (span : Span) (text : String) (excerpt : Excerpt) : Prop :=
  excerpt.lineStart = line ∧ ∃ row mark, lines.row line = .ok row ∧ excerpt.source = row.text ∧ excerpt.marks = [mark] ∧
    mark.range.Covers excerpt.source.toList text.toList ∧
    span = ⟨row.start + mark.range.start, row.start + mark.range.stop⟩

/-- A span that stands in a line is not cut off in an excerpt of the line. -/
theorem Context.lineRange_eq {line : Nat} {row : Row} (hrow : context.lines.row line = .ok row) {range : Span}
    (hle : range.start ≤ range.stop) (hstop : range.stop ≤ row.text.utf8ByteSize) :
    context.lineRange line ((row.start + range.start : Nat) : Int) ((row.start + range.stop : Nat) : Int) =
      .ok (range.start, range.stop) := by
  have hsize : row.span = ⟨row.start, row.start + row.text.utf8ByteSize⟩ := by
    rw [Row.span, Row.text, ← byteLength_toList, String.toList_ofList]
  have hclamp : ∀ offset, offset ≤ row.text.utf8ByteSize →
      (clamp row.span.start row.span.stop ((row.start + offset : Nat) : Int) - row.span.start).toNat = offset := by
    intro offset hoffset
    rw [hsize, clamp]
    dsimp only
    omega
  rw [lineRange, Lines.lineSpan, hrow]
  change Except.ok _ = _
  rw [hclamp _ (Nat.le_trans hle hstop), hclamp _ hstop, Nat.max_eq_right hle]

/-- What stands in the line of an excerpt can be marked there. -/
theorem Context.lineExcerpt_pins {line : Nat} {row : Row} {text : String} (hrow : context.lines.row line = .ok row)
    (hholds : row.Holds span text) (label : String) : ∃ range mark excerpt,
      context.lineRange line span.start span.stop = .ok range ∧ checkMark range label = .ok mark ∧ mark.label = label ∧
      context.lineExcerpt line [mark] = .ok excerpt ∧ excerpt.marks = [mark] ∧
      excerpt.Pins context.lines line span text := by
  obtain ⟨range, hcovers, rfl⟩ := hholds
  have hwithin := hcovers.isWithin
  have hline : context.lines.line line = .ok row.text := by
    rw [Lines.line, hrow]
    rfl
  have hmarks : ∀ mark ∈ [({ range, label } : Mark)], mark.range.stop ≤ row.text.utf8ByteSize :=
    List.forall_mem_singleton.mpr hwithin.stop_le
  exact ⟨_, _, _, lineRange_eq hrow hwithin.le hwithin.stop_le, checkMark_eq hwithin.le label none, rfl,
    lineExcerpt_eq hline hmarks, rfl, rfl, row, _, hrow, rfl, rfl, hcovers, rfl⟩

/-- A node that stands in its first line is marked there. -/
theorem Context.nodeExcerpt_pins {line : Nat} {row : Row} (hrow : context.lines.row line = .ok row)
    (hspan : node.span = some span) (hholds : row.Holds span destination) (label : String) :
    ∃ excerpt, context.nodeExcerpt node line label = .ok excerpt ∧ excerpt.Pins context.lines line span destination := by
  obtain ⟨range, mark, excerpt, hrange, hmark, -, hexcerpt, -, hpins⟩ := lineExcerpt_pins hrow hholds label
  refine ⟨excerpt, ?_, hpins⟩
  rw [nodeExcerpt, nodeRange, hspan]
  dsimp only
  rw [hrange]
  dsimp only [PositionError.asRuleError, bind, Except.bind]
  rw [hmark]
  exact hexcerpt

/-- Rows do not share bytes: what starts in one and what starts in another differ. -/
theorem Excerpt.Pins.not_holds {first last : Nat} {row : Row} {excerpt : Excerpt} {text : String}
    (h : excerpt.Pins context.lines first span text) (hne : first ≠ last) (hrow : context.lines.row last = .ok row) :
    ¬row.Holds span destination := by
  rintro ⟨range, hrange, heq⟩
  obtain ⟨-, top, mark, htop, hsource, -, hcovers, rfl⟩ := h
  obtain ⟨k, rfl, hk⟩ := Lines.exists_of_row htop
  obtain ⟨j, rfl, hj⟩ := Lines.exists_of_row hrow
  have hsize : ∀ row : Row, row.text.utf8ByteSize ≤ byteLength row.chars := fun row => by
    rw [Row.text, ← byteLength_toList, String.toList_ofList]
    exact Row.byteLength_dropReturn_le row.chars
  have hmark := Nat.le_trans hcovers.isWithin.le hcovers.isWithin.stop_le
  have hother := Nat.le_trans hrange.isWithin.le hrange.isWithin.stop_le
  have hstart := congrArg Span.start heq
  have htopSize := hsize top
  have hrowSize := hsize row
  rw [hsource] at hmark
  dsimp only at hstart
  -- the earlier of the two rows ends before the later one starts
  rcases Nat.lt_or_gt_of_ne hne with hlt | hgt
  · have hrows := context.lines.tiles.stop_lt (show k < j by omega) hk hj
    omega
  · have hrows := context.lines.tiles.stop_lt (show j < k by omega) hj hk
    omega

/-- A finding about a link or an image marks exactly the bytes of the destination if and only if the node ends on the
line on which it begins. -/
theorem Snippet.IsAbout.pins_iff (h : snippet.IsAbout context node) (hdocument : context.document.HasTree)
    (hnode : node ∈ context.body.nodes) (hdestination : node.destination? = some destination)
    (hspan : node.span = some span) :
    span.Covers context.lines.source.toList destination.toList ∧
      ∃ first last excerpt, node.lines = some (first, last) ∧ snippet.excerpts = [excerpt] ∧
        (excerpt.Pins context.lines first span destination ↔ first = last) := by
  obtain ⟨-, first, last, row, hlines, hrow, hholds⟩ := hdocument.isPinned hnode destination span hdestination hspan
  rw [IsAbout, hlines] at h
  obtain ⟨label, excerpt, hexcerpt, hexcerpts⟩ := h
  refine ⟨hholds.covers hrow, first, last, excerpt, hlines, hexcerpts, fun hpins => ?_, ?_⟩
  · by_contra hne
    exact hpins.not_holds hne hrow hholds
  · rintro rfl
    obtain ⟨other, hother, hpins⟩ := Context.nodeExcerpt_pins hrow hspan hholds label
    obtain rfl := Except.ok.inj (hexcerpt.symm.trans hother)
    exact hpins

/-! ### Rules about links and images -/

/-- A node of a body is a link or an image. -/
def Body.IsTarget (body : Body) (node : Node) : Prop := node ∈ body.nodes ∧ ∃ destination, node.destination? = some destination

theorem Body.isTarget_of_mem_all {body : Body} (hnode : node ∈ body.all) (h : isLink node || isImage node) :
    body.IsTarget node := by
  refine ⟨mem_nodes_of_mem_all hnode, ?_⟩
  rw [Node.destination?]
  cases hkind : node.kind with
  | link destination => exact ⟨destination, rfl⟩
  | image destination => exact ⟨destination, rfl⟩
  | _ => simp [isLink, isImage, hkind] at h

theorem Body.isTarget_of_mem_links {body : Body} (h : node ∈ body.links) : body.IsTarget node := by
  obtain ⟨hnode, hlink⟩ := List.mem_filter.mp h
  exact isTarget_of_mem_all hnode (by rw [hlink, Bool.true_or])

/-- Whatever is found is about links and images. -/
def YieldsTargets (context : Context) (finding : Finding (List Snippet)) : Prop :=
  Yields (∀ snippet ∈ ·, ∃ node, context.body.IsTarget node ∧ snippet.IsAbout context node) finding

namespace YieldsTargets

theorem nil : YieldsTargets context (.ok []) := .ok (List.forall_mem_nil _)

theorem about {first last : Nat} (hnode : context.body.IsTarget node) (hlines : node.lines = some (first, last))
    (title label : String) (footer : List Note) :
    YieldsTargets context (do return [.about title (← context.nodeExcerpt node first label) footer]) := by
  refine Yields.bind fun excerpt hexcerpt => Yields.ok (List.forall_mem_singleton.mpr ⟨node, hnode, ?_⟩)
  rw [Snippet.IsAbout, hlines]
  exact ⟨label, excerpt, hexcerpt, rfl⟩

end YieldsTargets

theorem RelativeLinkRule.yields_check (rule : RelativeLinkRule) (context : Context) :
    YieldsTargets context (rule.check context) := by
  refine Yields.flatten fun node hnode => ?_
  obtain ⟨hmem, hlink⟩ := List.mem_filter.mp hnode
  rw [finding]
  split_ifs
  · exact YieldsTargets.nil
  · cases hlines : node.lines with
    | none => exact YieldsTargets.nil
    | some lines => exact YieldsTargets.about (Body.isTarget_of_mem_all hmem hlink) hlines _ _ _

theorem LinkTextRule.yields_check (rule : LinkTextRule) (context : Context) :
    YieldsTargets context (rule.check context) := by
  refine Yields.flatten fun node hnode => ?_
  rw [finding?]
  split
  · exact YieldsTargets.nil
  · dsimp only
    split
    · rename_i hlines
      exact YieldsTargets.about (Body.isTarget_of_mem_links hnode) hlines _ _ _
    · exact YieldsTargets.nil

theorem LinkStatusRule.yields_linkFinding (hnode : context.body.IsTarget node) (title label : String)
    (footer : List Note) : YieldsTargets context (linkFinding context node title label footer) := by
  rw [linkFinding]
  split
  · rename_i hlines
    refine Yields.ok (List.forall_mem_singleton.mpr ⟨node, hnode, ?_⟩)
    rw [Snippet.IsAbout, hlines]
  · rename_i hlines
    exact YieldsTargets.about hnode hlines _ _ _

/-- A link to a proposal is a link of the body. -/
theorem LinkStatusRule.isTarget_of_mem_proposalLinks {rule : LinkStatusRule} {link : ProposalLink}
    (h : link ∈ rule.proposalLinks context) : context.body.IsTarget link.node := by
  obtain ⟨node, hnode, hlink⟩ := List.mem_filterMap.mp h
  obtain ⟨destination, -, hlink⟩ := Option.bind_eq_some_iff.mp hlink
  obtain ⟨digits, -, hlink⟩ := Option.bind_eq_some_iff.mp hlink
  obtain rfl := Option.some.inj hlink
  exact Body.isTarget_of_mem_links hnode

theorem LinkStatusRule.yields_findingAmong (rule : LinkStatusRule) (current : String)
    (targets : List (String × TargetStatus)) {link : ProposalLink} (h : link ∈ rule.proposalLinks context) :
    YieldsTargets context (rule.findingAmong context current targets link) := by
  have hnode := isTarget_of_mem_proposalLinks h
  rw [findingAmong]
  split
  · rename_i target _
    cases target with
    | unreadable reason => exact yields_linkFinding hnode _ _ _
    | status status =>
      rw [targetFinding]
      split_ifs
      · exact YieldsTargets.nil
      · exact yields_linkFinding hnode _ _ _
  · exact YieldsTargets.nil

theorem LinkStatusRule.yields_found (rule : LinkStatusRule) (context : Context) (answers : String → FetchAnswer) :
    YieldsTargets context ((rule.check context).found answers) := by
  rw [check]
  dsimp only
  split
  · exact YieldsTargets.nil
  · rw [Check.found_bind]
    refine Yields.bind fun targets _ => ?_
    rw [Check.mapM_liftM, Check.found_bind]
    exact Yields.flatten fun link hlink => rule.yields_findingAmong _ targets hlink

/-- The findings of the three rules about links and images are each about a link or an image of the document. If the
span of that one is known, it holds the destination, and the finding marks exactly these bytes if and only if the node
ends on the line on which it begins. That is so in all documents that have the tree of their body, as every document
has that is read from a text. -/
theorem Rule.check_pins {rule : Rule} {context : Context} {answers : String → FetchAnswer} {snippets : List Snippet}
    (hkind : rule.kind ∈ ["markdown-link-status", "markdown-proposal-ref", "markdown-relative-links"])
    (hfound : (rule.check context).found answers = .ok snippets) :
    (∀ text origin, Document.ofString text origin = .ok context.document → context.document.HasTree) ∧
    (context.document.HasTree →
      ∀ snippet ∈ snippets, (∃ node, context.body.IsTarget node ∧ snippet.IsAbout context node) ∧
        ∀ node ∈ context.body.nodes, snippet.IsAbout context node →
          ∀ destination span, node.destination? = some destination → node.span = some span →
            span.Covers context.lines.source.toList destination.toList ∧
              ∃ first last excerpt, node.lines = some (first, last) ∧ snippet.excerpts = [excerpt] ∧
                (excerpt.Pins context.lines first span destination ↔ first = last)) := by
  refine ⟨fun text origin => Document.hasTree_of_ofString, fun hdocument snippet hsnippet => ?_⟩
  -- the three kinds are those of the rules that look at destinations
  have hyields : YieldsTargets context ((rule.check context).found answers) := by
    cases rule with
    | linkStatus rule => exact rule.yields_found context answers
    | linkText rule => exact rule.yields_check context
    | relativeLink rule => exact rule.yields_check context
    | _ => simp [kind] at hkind
  exact ⟨hyields snippets hfound snippet hsnippet, fun node hnode habout destination span hdestination hspan =>
    habout.pins_iff hdocument hnode hdestination hspan⟩

/-- The tree of a paragraph that is a link to a proposal. -/
def linkTree (pieces : List Tree) (stop : Nat) : Tree :=
  .node { kind := .root } [.node { kind := .paragraph, lines := some ⟨0, stop⟩ }
    [.node { kind := .inline, lines := some ⟨0, stop⟩ } [.node { kind := .link "eip-1.md" } pieces]]]

/-- In a link on one line the destination is marked, behind a text that is not ASCII. -/
theorem Rule.check_pins_line :
    let rule : Rule := .linkStatus ⟨"status", [["Draft"], ["Final"]], "eip-", ".md"⟩
    let lines : Lines := .ofString "---\nstatus: Final\n---\n[é](eip-1.md)"
    ∃ preamble body snippets snippet excerpt, Preamble.parse lines = .ok (preamble, 3) ∧
      Body.ofTree lines 4 (linkTree [.leaf { kind := .text, content := "é" }] 1) = .ok body ∧
      (rule.check ⟨⟨none, lines, preamble, body⟩, {}⟩).found (fun _ => .error "not found") = .ok snippets ∧
      snippet ∈ snippets ∧ snippet.excerpts = [excerpt] ∧ excerpt.Pins lines 4 ⟨27, 35⟩ "eip-1.md" := by
  intro rule lines
  obtain ⟨preamble, hpreamble, hplaced⟩ : ∃ preamble, Preamble.parse lines = .ok (preamble, 3) ∧
      (Body.ofTree lines 4 (linkTree [.leaf { kind := .text, content := "é" }] 1)).map (fun body =>
        (body.firstLine, (body.nodes.toList.all fun node => node.destination?.all fun destination =>
            destination = "eip-1.md" && node.span = some ⟨27, 35⟩ && node.lines = some (4, 4)),
          ((rule.check ⟨⟨none, lines, preamble, body⟩, {}⟩).found fun _ => .error "not found").toOption.map
            List.length)) = .ok (4, true, some 1) :=
    ⟨⟨[⟨"status", " Final", 2, ⟨4, 17⟩, "status: Final"⟩]⟩, by decide +kernel, by decide +kernel⟩
  obtain ⟨body, hbody, hfacts⟩ := exists_of_map_eq_ok hplaced
  obtain ⟨hfirst, htargets, hlength⟩ : _ ∧ _ ∧ _ := by simpa only [Prod.mk.injEq] using hfacts
  obtain ⟨snippet, hfound⟩ : ∃ snippet, (rule.check ⟨⟨none, lines, preamble, body⟩, {}⟩).found
      (fun _ => .error "not found") = .ok [snippet] := by
    cases hfound : (rule.check ⟨⟨none, lines, preamble, body⟩, {}⟩).found fun _ => .error "not found" with
    | error error => simp [hfound, Except.toOption] at hlength
    | ok snippets =>
      rw [hfound] at hlength
      obtain ⟨snippet, rfl⟩ := List.length_eq_one_iff.mp (Option.some.inj hlength)
      exact ⟨snippet, rfl⟩
  -- the one finding is about some node, which can only be the link
  obtain ⟨⟨node, ⟨hnode, destination, hdestination⟩, habout⟩, hpins⟩ :=
    (check_pins (by decide) hfound).2 ⟨_, hfirst ▸ hbody⟩ snippet (List.mem_singleton_self _)
  have htarget := List.all_eq_true.mp htargets node (Array.mem_toList_iff.mpr hnode)
  rw [hdestination] at htarget
  obtain ⟨⟨rfl, hspan⟩, hlines⟩ : (destination = "eip-1.md" ∧ node.span = some ⟨27, 35⟩) ∧
      node.lines = some (4, 4) := by simpa using htarget
  obtain ⟨-, first, last, excerpt, hnodeLines, hexcerpts, hiff⟩ := hpins node hnode habout _ _ hdestination hspan
  obtain ⟨rfl, rfl⟩ := Prod.mk.inj (Option.some.inj (hlines.symm.trans hnodeLines))
  exact ⟨preamble, body, _, snippet, excerpt, hpreamble, hbody, hfound, List.mem_singleton_self _, hexcerpts,
    hiff.mpr rfl⟩

/-- In a link whose text goes over two lines nothing is marked, as the first of them is shown. -/
theorem Rule.not_check_pins_lines :
    ¬ ∀ (rule : Rule) (context : Context) (answers : String → FetchAnswer) (snippets : List Snippet)
        (node : Node) (destination : String) (span : Span),
      rule.kind ∈ ["markdown-link-status", "markdown-proposal-ref", "markdown-relative-links"] →
      context.document.HasTree → (rule.check context).found answers = .ok snippets →
      node ∈ context.body.nodes → node.destination? = some destination → node.span = some span →
      ∀ snippet ∈ snippets, snippet.IsAbout context node → ∀ excerpt ∈ snippet.excerpts, ∀ mark ∈ excerpt.marks,
        mark.range.Covers excerpt.source.toList destination.toList := by
  intro h
  let rule : LinkStatusRule := ⟨"status", [["Draft"], ["Final"]], "eip-", ".md"⟩
  let lines : Lines := .ofString "---\nstatus: Final\n---\n[x\ny](eip-1.md)"
  let answers : String → FetchAnswer := fun _ => .error "not found"
  obtain ⟨body, hbody, hfacts⟩ := exists_of_map_eq_ok (f := fun body =>
      (body.firstLine, (body.nodes.toList.all fun node => node.destination?.all fun destination =>
          destination = "eip-1.md" && node.span = some ⟨28, 36⟩),
        ((rule.check ⟨⟨none, lines, ⟨[⟨"status", " Final", 2, ⟨4, 17⟩, "status: Final"⟩]⟩, body⟩, {}⟩).found
          answers).toOption.map fun snippets => snippets.flatMap fun snippet => snippet.excerpts.flatMap fun excerpt =>
            excerpt.marks.map fun mark => (excerpt.source, mark.range)))
    (show (Body.ofTree lines 4 (linkTree [.leaf { kind := .text, content := "x" }, .leaf { kind := .softBreak },
        .leaf { kind := .text, content := "y" }] 2)).map _ = .ok (4, true, some [("[x", ⟨2, 2⟩)]) by decide +kernel)
  obtain ⟨hfirst, htargets, hmarked⟩ : _ ∧ _ ∧ _ := by simpa only [Prod.mk.injEq] using hfacts
  let context : Context := ⟨⟨none, lines, ⟨[⟨"status", " Final", 2, ⟨4, 17⟩, "status: Final"⟩]⟩, body⟩, {}⟩
  obtain ⟨snippets, hfound⟩ : ∃ snippets, (rule.check context).found answers = .ok snippets := by
    cases hfound : (rule.check context).found answers with
    | error error => simp [context, hfound, Except.toOption] at hmarked
    | ok snippets => exact ⟨snippets, rfl⟩
  rw [hfound] at hmarked
  have hmem : ("[x", Span.mk 2 2) ∈ snippets.flatMap fun snippet => snippet.excerpts.flatMap fun excerpt =>
      excerpt.marks.map fun mark => (excerpt.source, mark.range) := by
    have heq := Option.some.inj hmarked
    beta_reduce at heq
    rw [heq]
    exact List.mem_singleton_self _
  obtain ⟨snippet, hsnippet, hmem⟩ := List.mem_flatMap.mp hmem
  obtain ⟨excerpt, hexcerpt, hmem⟩ := List.mem_flatMap.mp hmem
  obtain ⟨mark, hmark, heq⟩ := List.mem_map.mp hmem
  obtain ⟨hsource, -⟩ := Prod.mk.inj heq
  obtain ⟨node, ⟨hnode, destination, hdestination⟩, habout⟩ :=
    rule.yields_found context answers snippets hfound snippet hsnippet
  have htarget := List.all_eq_true.mp htargets node (Array.mem_toList_iff.mpr hnode)
  rw [hdestination] at htarget
  obtain ⟨rfl, hspan⟩ : destination = "eip-1.md" ∧ node.span = some ⟨28, 36⟩ := by simpa using htarget
  -- eight characters do not stand in a line of two
  obtain ⟨before, after, hsplit, -⟩ := h (.linkStatus rule) context answers snippets node _ _ (by decide)
    ⟨_, hfirst ▸ hbody⟩ hfound hnode hdestination hspan snippet hsnippet habout excerpt hexcerpt mark hmark
  have hlength := congrArg List.length hsplit
  rw [hsource, List.length_append, List.length_append] at hlength
  have htwo : "[x".toList.length = 2 := rfl
  have height : "eip-1.md".toList.length = 8 := rfl
  omega

end ProposalCheck

import ProposalCheck.Proofs.Document.Order
import ProposalCheck.Proofs.Reference.Linked
import ProposalCheck.Proofs.Rule.Valid

/-!
# Proposals that are linked to

Links of the body whose destinations name a proposal are judged by what there is at the path of that proposal.
Links with different spellings may have the same path, which is asked for once; the links that share it are judged
alike. One whose proposal cannot be read, or has a status of a lower rank, is reported, and no other is.

## Main definitions

* `LinkStatusRule.Considers`: the rule looks at a link
* `LinkStatusRule.IsDefect`: what is wrong with a link
* `LinkStatusRule.IsExact`: the rule asks for the paths of some links and finds what is wrong with each link

## Main results

* `LinkStatusRule.proposalLink?_eq_some_iff`: which links the rule looks at
* `LinkStatusRule.judges_targetFinding`: a link is judged by what there is at its path
* `LinkStatusRule.links_exact`: the rule is exact for the links that name a proposal
-/

namespace ProposalCheck

namespace LinkStatusRule

variable {rule : LinkStatusRule} {flow : StatusFlow} {context : Context} {current : String} {link : ProposalLink}
  {answers : String → FetchAnswer}

/-! ### Links that name a proposal -/

/-- The rule looks at a node: it is a link whose destination names a proposal by `link.target`, and the path of the
proposal is `link.path`. -/
structure Considers (rule : LinkStatusRule) (context : Context) (node : Node) (link : ProposalLink) : Prop where
  node_eq : link.node = node
  names : ∃ destination, node.kind = .link destination ∧
    NamesProposal rule.filePrefix rule.suffix destination.toList link.target.toList
  path_eq : link.path = context.resolve link.target

/-- The proposal that a node links to, if it does. -/
def proposalLink? (rule : LinkStatusRule) (context : Context) (node : Node) : Option ProposalLink :=
  if Body.isLink node then do
    let destination ← node.destination?
    let _ ← linkedDigits? rule.filePrefix rule.suffix destination
    let target := String.ofList (destination.toList.takeWhile (· ≠ '#'))
    return ⟨node, target, context.resolve target⟩
  else none

/-- The rule goes through all nodes of a document in order. -/
theorem proposalLinks_eq (h : context.document.HasTree) :
    rule.proposalLinks context = context.body.nodes.toList.filterMap (rule.proposalLink? context) := by
  rw [proposalLinks, Body.links, Context.body, h.all_eq, List.filterMap_filter]
  rfl

theorem proposalLink?_of_kind {node : Node} {destination : String} (hkind : node.kind = .link destination) :
    rule.proposalLink? context node = (linkedDigits? rule.filePrefix rule.suffix destination).map fun _ =>
      ⟨node, String.ofList (destination.toList.takeWhile (· ≠ '#')),
        context.resolve (String.ofList (destination.toList.takeWhile (· ≠ '#')))⟩ := by
  have hlink : Body.isLink node = true := by rw [Body.isLink, hkind]
  have hdestination : node.destination? = some destination := by rw [Node.destination?, hkind]
  rw [proposalLink?, if_pos hlink, hdestination, Option.bind_eq_bind, Option.bind_some]
  cases linkedDigits? rule.filePrefix rule.suffix destination <;> rfl

/-- The rule looks at the links whose destinations name a proposal. -/
theorem proposalLink?_eq_some_iff (hpre : '#' ∉ rule.filePrefix.toList) (hsuf : '#' ∉ rule.suffix.toList)
    {node : Node} : rule.proposalLink? context node = some link ↔ rule.Considers context node link := by
  constructor
  · intro h
    -- an image may have the same destination, but only links are looked at
    have hlink : Body.isLink node = true := by
      by_contra hno
      rw [proposalLink?, if_neg hno] at h
      cases h
    obtain ⟨destination, hkind⟩ : ∃ destination, node.kind = .link destination := by
      rw [Body.isLink] at hlink
      split at hlink
      · exact ⟨_, ‹_›⟩
      · cases hlink
    rw [proposalLink?_of_kind hkind] at h
    obtain ⟨digits, hdigits, rfl⟩ := Option.map_eq_some_iff.mp h
    obtain ⟨target, htarget⟩ := isSome_linkedDigits?_iff.mp (Option.isSome_of_eq_some hdigits)
    refine ⟨rfl, ⟨destination, hkind, ?_⟩, rfl⟩
    rwa [String.toList_ofList, ← htarget.eq_takeWhile hpre hsuf]
  · rintro ⟨rfl, ⟨destination, hkind, hnames⟩, hpath⟩
    obtain ⟨digits, hdigits⟩ := Option.isSome_iff_exists.mp (isSome_linkedDigits?_iff.mpr ⟨_, hnames⟩)
    have htarget : String.ofList (destination.toList.takeWhile (· ≠ '#')) = link.target := by
      rw [← hnames.eq_takeWhile hpre hsuf, String.ofList_toList]
    rw [proposalLink?_of_kind hkind, hdigits, htarget, Option.map_some, ← hpath]

/-! ### One link -/

/-- A proposal at a path is a defect of a document with the status `current` that links to it: its own status cannot
be read, or has a lower rank. -/
inductive IsDefect (rule : LinkStatusRule) (flow : StatusFlow) (current path : String) (answer : FetchAnswer) : Prop
  | unreadable (h : IsUnreadable path rule.status answer)
  | early {status : String} (h : HasStatus path rule.status answer status) (hlower : flow.Precedes status current)

/-- What is found about a link is what is wrong with it: nothing if the proposal is no defect, and otherwise one
thing, about the node of the link. -/
structure Judges (rule : LinkStatusRule) (flow : StatusFlow) (context : Context) (current : String)
    (answers : String → FetchAnswer) (link : ProposalLink) (found : List Snippet) : Prop where
  silent : ¬rule.IsDefect flow current link.path (answers link.path) → found = []
  reports : rule.IsDefect flow current link.path (answers link.path) →
    ∃ snippet, found = [snippet] ∧ snippet.IsAbout context link.node

/-- A node that stands in its document can be reported. -/
theorem exists_linkFinding (h : context.HoldsNodes) {node : Node} (hnode : node ∈ context.body.nodes)
    (title label : String) (footer : List Note) :
    ∃ snippet, linkFinding context node title label footer = .ok [snippet] ∧ snippet.IsAbout context node := by
  rw [linkFinding]
  cases hlines : node.lines with
  | none => exact ⟨_, rfl, by rw [Snippet.IsAbout, hlines]⟩
  | some lines =>
    obtain ⟨excerpt, hexcerpt, -⟩ := h.nodeExcerpt hnode hlines label
    refine ⟨.about title excerpt footer, ?_, ?_⟩
    · simp only [hexcerpt, bind, Except.bind, pure, Except.pure]
    · rw [Snippet.IsAbout, hlines]
      exact ⟨label, excerpt, hexcerpt, rfl⟩

/-- A link is judged by what is known about the proposal at its path. -/
theorem judges_targetFinding (hflow : StatusFlow.ofRanks rule.flow = .ok flow) (hnodes : context.HoldsNodes)
    (hcurrent : flow.contains current) (hnode : link.node ∈ context.body.nodes)
    (hreadable : IsReadable link.path (answers link.path)) {target : TargetStatus}
    (htarget : TargetStatus.ofAnswer link.path rule.status (answers link.path) = .ok target) :
    ∃ found, rule.targetFinding context current link target = .ok found ∧
      rule.Judges flow context current answers link found := by
  have hflowOf : flowOf rule.flow = flow := by rw [flowOf, hflow]
  have hproper := (StatusFlow.isProper_of_ofRanks hflow).2
  rcases TargetStatus.ofAnswer_cases rule.status hreadable with ⟨status, hstatus, heq⟩ | ⟨hunreadable, reason, heq⟩
  · obtain rfl := Except.ok.inj (htarget.symm.trans heq)
    rw [targetFinding, hflowOf]
    -- a proposal that can be read is a defect if its status has a lower rank, and for nothing else
    have hdefect : rule.IsDefect flow current link.path (answers link.path) ↔ isTooEarly flow current status := by
      rw [RequiresStatusRule.isTooEarly_iff hproper hcurrent]
      constructor
      · rintro (hunreadable | ⟨hother, hlower⟩)
        · exact absurd hunreadable hstatus.not_isUnreadable
        · exact hstatus.unique hother ▸ hlower
      · exact .early hstatus
    cases hearly : isTooEarly flow current status with
    | false =>
      rw [hearly] at hdefect
      exact ⟨[], rfl, fun _ => rfl, fun h => absurd (hdefect.mp h) (by simp)⟩
    | true =>
      obtain ⟨snippet, hfound, habout⟩ := exists_linkFinding hnodes hnode
        s!"proposal `{link.target}` is not stable enough for a `{rule.status}` of `{current}`"
        "has a less advanced status" [referrersNote flow rule.status status]
      exact ⟨[snippet], hfound, fun h => absurd (hdefect.mpr hearly) h, fun _ => ⟨snippet, rfl, habout⟩⟩
  · obtain rfl := Except.ok.inj (htarget.symm.trans heq)
    obtain ⟨snippet, hfound, habout⟩ := exists_linkFinding hnodes hnode
      s!"link destination `{link.target}` could not be read" reason []
    exact ⟨[snippet], hfound, fun h => absurd (.unreadable hunreadable) h, fun _ => ⟨snippet, rfl, habout⟩⟩

/-! ### All links -/

/-- With a known status of its own, a document has its links looked at. -/
theorem check_of_some (hflow : flowOf rule.flow = flow) {own : Field}
    (hown : context.preamble.find? rule.status = some own) (hcurrent : flow.contains own.trimmed) :
    rule.check context = do
      let targets ← Check.all <| ((rule.proposalLinks context).map (·.path)).eraseDups.map fun path => do
        return (path, ← TargetStatus.fetch path rule.status)
      let found ← (rule.proposalLinks context).mapM fun link =>
        (rule.findingAmong context own.trimmed targets link : Finding (List Snippet))
      return found.flatten := by
  rw [check, hflow, hown, Option.filter_some_pos (by exact hcurrent)]

theorem found_pair (answers : String → FetchAnswer) (path name : String) :
    Check.found answers (do return (path, ← TargetStatus.fetch path name)) =
      (TargetStatus.ofAnswer path name (answers path)).map (path, ·) := by
  rw [Check.found_bind, RequiresStatusRule.found_fetch]
  cases TargetStatus.ofAnswer path name (answers path) <;> rfl

theorem asked_pair (answers : String → FetchAnswer) (path name : String) :
    Check.asked answers (do return (path, ← TargetStatus.fetch path name)) = [path] := by
  rw [Check.asked_bind, RequiresStatusRule.asked_fetch]
  split <;> rfl

/-- The rule asks for each path once. -/
theorem asked_check (answers : String → FetchAnswer) (hflow : flowOf rule.flow = flow) {own : Field}
    (hown : context.preamble.find? rule.status = some own) (hcurrent : flow.contains own.trimmed) :
    (rule.check context).asked answers = ((rule.proposalLinks context).map (·.path)).eraseDups := by
  rw [check_of_some hflow hown hcurrent, Check.asked_bind, Check.asked_all, List.flatMap_map]
  simp only [asked_pair, Check.mapM_liftM, ← List.map_eq_flatMap, List.map_id']
  -- after that, nothing more is asked for
  split
  · rw [Check.asked_bind]
    split <;> simp
  · exact List.append_nil _

/-- With what is known about every path, the rule finds what it finds about each link. -/
theorem found_check {targets : List (String × TargetStatus)} {findings : List (List Snippet)}
    (hflow : flowOf rule.flow = flow) {own : Field} (hown : context.preamble.find? rule.status = some own)
    (hcurrent : flow.contains own.trimmed)
    (htargets : ((rule.proposalLinks context).map (·.path)).eraseDups.mapM (fun path =>
      (TargetStatus.ofAnswer path rule.status (answers path)).map (path, ·)) = .ok targets)
    (hfindings : (rule.proposalLinks context).mapM (rule.findingAmong context own.trimmed targets) = .ok findings) :
    (rule.check context).found answers = .ok findings.flatten := by
  rw [check_of_some hflow hown hcurrent, Check.found_bind, Check.found_all, List.mapM_map]
  simp only [Function.comp_def, found_pair, Check.mapM_liftM]
  rw [htargets]
  dsimp only [Except.bind]
  rw [Check.found_bind, Check.found_liftM, hfindings]
  rfl

/-- Of readable answers, something is known about every path. -/
theorem exists_targets (name : String) {paths : List String} (h : ∀ path ∈ paths, IsReadable path (answers path)) :
    ∃ targets, paths.mapM (fun path => (TargetStatus.ofAnswer path name (answers path)).map (path, ·)) = .ok targets ∧
      List.Forall₂ (fun path target => target.1 = path ∧
        TargetStatus.ofAnswer path name (answers path) = .ok target.2) paths targets := by
  refine exists_mapM_eq_ok fun path hpath => ?_
  rcases TargetStatus.ofAnswer_cases name (h path hpath) with ⟨status, -, hknown⟩ | ⟨-, reason, hknown⟩ <;>
    exact ⟨_, by rw [hknown]; rfl, rfl, hknown⟩

/-- What is known about a path that was asked for is found under that path. -/
theorem exists_lookup {name path : String} {paths : List String} {targets : List (String × TargetStatus)}
    (h : List.Forall₂ (fun path target => target.1 = path ∧
      TargetStatus.ofAnswer path name (answers path) = .ok target.2) paths targets) (hpath : path ∈ paths) :
    ∃ target, targets.lookup path = some target ∧ TargetStatus.ofAnswer path name (answers path) = .ok target := by
  induction h with
  | nil => cases hpath
  | @cons first target rest targets hfirst _ ih =>
    obtain ⟨key, target⟩ := target
    obtain ⟨rfl, htarget⟩ := hfirst
    rw [List.lookup_cons]
    -- an earlier entry with the same path has the same answer
    by_cases heq : path = key
    · subst heq
      exact ⟨target, by simp, htarget⟩
    · rw [beq_false_of_ne heq]
      exact ih ((List.mem_cons.mp hpath).resolve_left heq)

/-- The rule is exact for some links: it asks for each path of theirs once, in the order in which the paths occur
first, and finds what is wrong with each link. Links with the same path are judged alike. -/
structure IsExact (rule : LinkStatusRule) (flow : StatusFlow) (context : Context) (current : String)
    (links : List ProposalLink) (answers : String → FetchAnswer) : Prop where
  asked : (rule.check context).asked answers = (links.map (·.path)).eraseDups
  found : ∃ findings, (rule.check context).found answers = .ok findings.flatten ∧
    List.Forall₂ (rule.Judges flow context current answers) links findings ∧
    ∀ first ∈ links.zip findings, ∀ second ∈ links.zip findings, first.1.path = second.1.path →
      (first.2 = [] ↔ second.2 = [])

theorem Judges.eq_nil_iff {found : List Snippet} (h : rule.Judges flow context current answers link found) :
    found = [] ↔ ¬rule.IsDefect flow current link.path (answers link.path) := by
  refine ⟨fun hnil hdefect => ?_, h.silent⟩
  obtain ⟨snippet, hone, -⟩ := h.reports hdefect
  rw [hnil] at hone
  cases hone

/-- In a document whose nodes are those of a tree, as in every document that is read from a text, and have their lines
in it, and whose own status is known, the rule is exact for the links whose destinations name a proposal, in the order
of the nodes. The source may give anything for these proposals, but each text that it gives is a document or is refused
for its structure. -/
theorem links_exact (rule : LinkStatusRule) {flow : StatusFlow} {context : Context} {own : Field} (source : Source)
    (limit : Option TimeLimit) (hflow : StatusFlow.ofRanks rule.flow = .ok flow)
    (hpre : '#' ∉ rule.filePrefix.toList) (hsuf : '#' ∉ rule.suffix.toList) (hnodes : context.HoldsNodes)
    (hown : context.preamble.find? rule.status = some own) (hcurrent : flow.contains own.trimmed)
    (hreadable : ∀ path ∈ (rule.check context).asked (source.reasons limit),
      IsReadable path (source.reasons limit path)) :
    ∃ link? : Node → Option ProposalLink,
      (∀ node link, link? node = some link ↔ rule.Considers context node link) ∧
      rule.IsExact flow context own.trimmed (context.body.nodes.toList.filterMap link?) (source.reasons limit) := by
  generalize source.reasons limit = answers at *
  have hflowOf : flowOf rule.flow = flow := by rw [flowOf, hflow]
  refine ⟨rule.proposalLink? context, fun node link => proposalLink?_eq_some_iff hpre hsuf, ?_⟩
  rw [← proposalLinks_eq hnodes.hasTree]
  have hpaths : ∀ link ∈ rule.proposalLinks context,
      link.path ∈ ((rule.proposalLinks context).map (·.path)).eraseDups := fun link hlink =>
    List.mem_eraseDups.mpr (List.mem_map_of_mem hlink)
  have hasked := asked_check answers hflowOf hown hcurrent
  rw [hasked] at hreadable
  -- what is known of a path is known once, so links with one path are judged alike
  obtain ⟨targets, htargets, hknown⟩ := exists_targets rule.status hreadable
  have heach : ∀ link ∈ rule.proposalLinks context, ∃ found,
      rule.findingAmong context own.trimmed targets link = .ok found ∧
      rule.Judges flow context own.trimmed answers link found := by
    intro link hlink
    obtain ⟨target, hlookup, htarget⟩ := exists_lookup hknown (hpaths link hlink)
    rw [findingAmong, hlookup]
    exact judges_targetFinding hflow hnodes hcurrent (isTarget_of_mem_proposalLinks hlink).1
      (hreadable _ (hpaths link hlink)) htarget
  obtain ⟨findings, hfindings, hjudges⟩ := exists_mapM_eq_ok heach
  refine ⟨hasked, findings, ?_, hjudges, ?_⟩
  · exact found_check hflowOf hown hcurrent htargets hfindings
  · -- what is wrong with a link depends on its path alone
    intro first hfirst second hsecond hpath
    have hzip := List.forall₂_iff_zip.mp hjudges
    rw [(hzip.2 hfirst).eq_nil_iff, (hzip.2 hsecond).eq_nil_iff, hpath]

/-- Two of four links are reported, which name one earlier proposal in two ways. One without a number names none. -/
theorem links_exact_shared :
    let rule : LinkStatusRule := ⟨"status", [["Draft"], ["Final"]], "eip-", ".md"⟩
    let source : Source := fun path =>
      if path = "eip-1.md" then .text "---\nstatus: Draft\n---\n" else .text "---\nstatus: Final\n---\n"
    let lines : Lines := .ofString "---\nstatus: Final\n---\n[é](./eip-1.md#e)[](eip-2.md)[](eip-1.md)[](eip-.md)"
    let links : List Markdown.Tree := [.node { kind := .link "./eip-1.md#e" } [.leaf { kind := .text, content := "é" }],
      .node { kind := .link "eip-2.md" } [], .node { kind := .link "eip-1.md" } [],
      .node { kind := .link "eip-.md" } []]
    ∃ preamble body own link?, Preamble.parse lines = .ok (preamble, 3) ∧
      Body.ofTree lines 4 (.node { kind := .root } [.node { kind := .paragraph, lines := some ⟨0, 1⟩ }
        [.node { kind := .inline, lines := some ⟨0, 1⟩ } links]]) = .ok body ∧
      preamble.find? "status" = some own ∧
      (rule.check ⟨⟨none, lines, preamble, body⟩, {}⟩).asked (source.reasons none) = ["eip-1.md", "eip-2.md"] ∧
      (∀ node link, link? node = some link ↔ rule.Considers ⟨⟨none, lines, preamble, body⟩, {}⟩ node link) ∧
      rule.IsExact ⟨rule.flow⟩ ⟨⟨none, lines, preamble, body⟩, {}⟩ own.trimmed
        (body.nodes.toList.filterMap link?) (source.reasons none) := by
  intro rule source lines links
  obtain ⟨preamble, own, hpreamble, hown, htrimmed, hplaced⟩ : ∃ preamble own,
      Preamble.parse lines = .ok (preamble, 3) ∧ preamble.find? "status" = some own ∧ own.trimmed = "Final" ∧
      (Body.ofTree lines 4 (.node { kind := .root } [.node { kind := .paragraph, lines := some ⟨0, 1⟩ }
        [.node { kind := .inline, lines := some ⟨0, 1⟩ } links]])).map (fun body =>
          (body.firstLine, Context.holdsLines ⟨none, lines, preamble, body⟩,
            (rule.check ⟨⟨none, lines, preamble, body⟩, {}⟩).asked (source.reasons none))) =
        .ok (4, true, ["eip-1.md", "eip-2.md"]) :=
    ⟨⟨[⟨"status", " Final", 2, ⟨4, 17⟩, "status: Final"⟩]⟩, ⟨"status", " Final", 2, ⟨4, 17⟩, "status: Final"⟩,
      by decide +kernel, by decide +kernel, by decide +kernel, by decide +kernel⟩
  obtain ⟨body, hbody, hfacts⟩ := exists_of_map_eq_ok hplaced
  obtain ⟨hfirst, hlines, hasked⟩ : _ ∧ _ ∧ _ := by simpa only [Prod.mk.injEq] using hfacts
  have hnodes : Context.HoldsNodes ⟨⟨none, lines, preamble, body⟩, {}⟩ :=
    Context.holdsNodes_of_holdsLines ⟨_, by rw [hfirst]; exact hbody⟩ hlines
  -- both proposals that are asked for can be read
  have hreadable : ∀ path ∈ (rule.check ⟨⟨none, lines, preamble, body⟩, {}⟩).asked (source.reasons none),
      IsReadable path (source.reasons none path) := by
    rw [hasked]
    decide +kernel
  have hflow : StatusFlow.ofRanks rule.flow = .ok ⟨rule.flow⟩ := rfl
  obtain ⟨link?, hconsiders, hexact⟩ := links_exact rule source none hflow (by decide)
    (by decide) hnodes hown (by rw [htrimmed]; rfl) hreadable
  exact ⟨preamble, body, own, link?, hpreamble, hbody, hown, hasked, hconsiders, hexact⟩

end LinkStatusRule

end ProposalCheck

import ProposalCheck.Fetch.Source
import ProposalCheck.Proofs.Document.Items
import ProposalCheck.Proofs.Document.Load
import ProposalCheck.Proofs.Lint.Line
import ProposalCheck.Proofs.Lint.Query
import ProposalCheck.Proofs.Reference.Flow
import ProposalCheck.Rule.Status

/-!
# Proposals that are required

A header lists proposals, and each of them must be at least as mature as the proposal itself. The rule asks
for them in the order of the list and judges each by what there is at its path alone: one that cannot be read
or that has a status of a lower rank is reported, with a mark on its item, and nothing else is. The statuses
that are named as help are those with which the proposal could list it.

## Main definitions

* `HasStatus`, `IsUnreadable`: what is known about the proposal at a path
* `RequiresStatusRule.verdict`: what the rule finds about one item, by itself
* `RequiresStatusRule.IsDefect`: what is wrong with an item
* `RequiresStatusRule.Judges`: the rule finds what is wrong with an item

## Main results

* `RequiresStatusRule.judges`: every item is judged by what there is at its path
* `RequiresStatusRule.check_exact`: the rule asks for the items of the list and finds what is wrong with each
-/

namespace ProposalCheck

/-! ### Steps for every item -/

/-- Two computations for each item of a list, one after the other, are two for the list. -/
theorem mapM_bind_zip {ε α β γ : Type} {f : α → Except ε β} {g : α × β → Except ε γ} {items : List α}
    {results : List γ} (h : items.mapM (fun item => (f item).bind fun b => g (item, b)) = .ok results) :
    ((items.mapM f).bind fun bs => (items.zip bs).mapM g) = .ok results := by
  induction items generalizing results with
  | nil => exact h
  | cons item items ih =>
    rw [List.mapM_cons] at h
    obtain ⟨c, hc, h⟩ := exists_of_bind_eq_ok h
    obtain ⟨cs, hcs, h⟩ := exists_of_bind_eq_ok h
    obtain ⟨b, hb, hc⟩ := exists_of_bind_eq_ok hc
    obtain ⟨bs, hbs, hcs⟩ := exists_of_bind_eq_ok (ih hcs)
    rw [List.mapM_cons, hb]
    -- all computations succeed, so their order makes no difference
    simp only [bind, Except.bind, pure, Except.pure] at hbs hcs h ⊢
    rw [hbs]
    simp only [List.zip_cons_cons, List.mapM_cons]
    rw [hc]
    simp only [bind, Except.bind, pure, Except.pure]
    rw [hcs]
    exact h

/-! ### What is known about a proposal -/

section Target

variable {path name : String} {answer : FetchAnswer} {status : String}

/-- The proposal at a path has a status: it is there, it is a document and it has the header. -/
def HasStatus (path name : String) (answer : FetchAnswer) (status : String) : Prop :=
  ∃ text document field, answer = .ok text ∧ Document.ofString text (some path) = .ok document ∧
    document.preamble.find? name = some field ∧ field.trimmed = status

/-- The status of the proposal at a path cannot be read. -/
inductive IsUnreadable (path name : String) : FetchAnswer → Prop
  | unfetched (reason : String) : IsUnreadable path name (.error reason)
  | unparsed {text : String} {error : DocumentError}
      (h : Document.ofString text (some path) = .error (.structure error)) : IsUnreadable path name (.ok text)
  | noHeader {text : String} {document : Document} (h : Document.ofString text (some path) = .ok document)
      (hnone : document.preamble.find? name = none) : IsUnreadable path name (.ok text)

theorem HasStatus.not_isUnreadable (h : HasStatus path name answer status) : ¬IsUnreadable path name answer := by
  obtain ⟨text, document, field, rfl, hdocument, hfield, -⟩ := h
  intro hunreadable
  cases hunreadable with
  | unparsed herror =>
    rw [hdocument] at herror
    cases herror
  | noHeader hother hnone =>
    obtain rfl := Except.ok.inj (hdocument.symm.trans hother)
    rw [hfield] at hnone
    cases hnone

theorem HasStatus.unique {other : String} (h : HasStatus path name answer status)
    (hother : HasStatus path name answer other) : status = other := by
  obtain ⟨text, document, field, rfl, hdocument, hfield, rfl⟩ := h
  obtain ⟨_, _, _, heq, hdocument', hfield', rfl⟩ := hother
  obtain rfl := Except.ok.inj heq
  obtain rfl := Except.ok.inj (hdocument.symm.trans hdocument')
  rw [Option.some.inj (hfield.symm.trans hfield')]

/-- A proposal has a status, or it cannot be read. -/
theorem TargetStatus.ofAnswer_cases (name : String) (h : IsReadable path answer) :
    (∃ status, HasStatus path name answer status ∧ ofAnswer path name answer = .ok (.status status)) ∨
      (IsUnreadable path name answer ∧ ∃ reason, ofAnswer path name answer = .ok (.unreadable reason)) := by
  cases answer with
  | error reason => exact .inr ⟨.unfetched reason, reason, rfl⟩
  | ok text =>
    rw [ofAnswer]
    cases hdocument : Document.ofString text (some path) with
    | error error =>
      cases error with
      | «structure» error => exact .inr ⟨.unparsed hdocument, _, rfl⟩
      | position error => exact absurd hdocument (h text rfl error)
    | ok document =>
      dsimp only
      cases hfield : document.preamble.find? name with
      | none => exact .inr ⟨.noHeader hdocument hfield, _, rfl⟩
      | some field =>
        exact .inl ⟨field.trimmed, ⟨text, document, field, rfl, hdocument, hfield, rfl⟩, rfl⟩

end Target

namespace RequiresStatusRule

variable {rule : RequiresStatusRule} {flow : StatusFlow} {context : Context} {own field : Field}
  {item : String × Span} {answer : FetchAnswer}

/-! ### One item -/

/-- The path of a listed proposal. -/
def path (rule : RequiresStatusRule) (context : Context) (item : String × Span) : String :=
  context.resolve (rule.filePrefix ++ item.1 ++ rule.suffix)

/-- What the rule finds about one item, by itself, given what there is at its path. -/
def verdict (rule : RequiresStatusRule) (context : Context) (item : String × Span) (answer : FetchAnswer) :
    Finding (List Snippet) :=
  match context.preamble.find? rule.status, context.preamble.find? rule.requires with
  | some own, some field =>
    (TargetStatus.ofAnswer (rule.path context item) rule.status answer).bind
      (rule.itemFinding context field own.trimmed item)
  | _, _ => .ok []

/-- A listed proposal is a defect of one with the status `current`: its own status cannot be read, or has a
lower rank. -/
inductive IsDefect (rule : RequiresStatusRule) (flow : StatusFlow) (current path : String) (answer : FetchAnswer) :
    Prop
  | unreadable (h : IsUnreadable path rule.status answer)
  | early {status : String} (h : HasStatus path rule.status answer status) (hlower : flow.Precedes status current)

/-- A finding has one excerpt, the line of a field, with one mark, on exactly the bytes of an item. -/
def MarksItem (context : Context) (field : Field) (item : String × Span) (snippet : Snippet) : Prop :=
  ∃ excerpt mark, snippet.excerpts = [excerpt] ∧ excerpt.marks = [mark] ∧ excerpt.lineStart = field.line ∧
    context.lines.line field.line = .ok excerpt.source ∧ mark.range = item.2 ∧
    mark.range.Covers excerpt.source.toList item.1.toList

/-- Another document differs from one in its own status at most: it has the status `status`, and lists the
same proposals. -/
structure Restates (rule : RequiresStatusRule) (context changed : Context) (status : String) : Prop where
  origin : changed.document.origin = context.document.origin
  own : ∃ own, changed.preamble.find? rule.status = some own ∧ own.trimmed = status
  listed : (changed.preamble.find? rule.requires).map (·.value) =
    (context.preamble.find? rule.requires).map (·.value)

/-- The rule finds what is wrong with an item: nothing if it is no defect, and otherwise one thing, with a mark
on the item. If the status of the listed proposal has a lower rank, the statuses are listed with which the
document could list it. -/
structure Judges (rule : RequiresStatusRule) (flow : StatusFlow) (context : Context) (own field : Field)
    (item : String × Span) (answer : FetchAnswer) : Prop where
  silent : ¬rule.IsDefect flow own.trimmed (rule.path context item) answer → rule.verdict context item answer = .ok []
  reports : rule.IsDefect flow own.trimmed (rule.path context item) answer →
    ∃ snippet, rule.verdict context item answer = .ok [snippet] ∧ MarksItem context field item snippet
  helps : ∀ status, HasStatus (rule.path context item) rule.status answer status →
    flow.Precedes status own.trimmed → ∃ snippet listed, rule.verdict context item answer = .ok [snippet] ∧
      snippet.footer =
        [.help s!"valid `{rule.status}` values for this proposal are: {listStatuses listed}"] ∧
      listed.Sublist flow.statuses ∧
      ∀ other ∈ flow.statuses, ∀ changed, rule.Restates context changed other →
        (other ∈ listed ↔ rule.verdict changed item answer = .ok [])

theorem verdict_eq (hown : context.preamble.find? rule.status = some own)
    (hfield : context.preamble.find? rule.requires = some field) :
    rule.verdict context item answer = (TargetStatus.ofAnswer (rule.path context item) rule.status answer).bind
      (rule.itemFinding context field own.trimmed item) := by
  rw [verdict, hown, hfield]

theorem isTooEarly_iff (h : flow.IsProper) {current status : String} (hcurrent : flow.contains current) :
    isTooEarly flow current status = true ↔ flow.Precedes status current := by
  rw [isTooEarly, Bool.and_eq_true, Bool.not_eq_true']
  constructor
  · rintro ⟨hstatus, hlower⟩
    exact (h.not_mayReference_iff hcurrent hstatus).mp hlower
  · rintro ⟨rank, later, hrank, hlater, hlt⟩
    have hstatus := StatusFlow.contains_iff.mpr ⟨rank, hrank⟩
    exact ⟨hstatus, (h.not_mayReference_iff hcurrent hstatus).mpr ⟨rank, later, hrank, hlater, hlt⟩⟩

/-- An item of a header can be marked on the line of the header. -/
theorem exists_excerpt_of_mem {text : String} {origin : Option String}
    (hdocument : Document.ofString text origin = .ok context.document)
    (hfield : field ∈ context.preamble.fields) (hitem : item ∈ field.items ",") (label : String) :
    ∃ excerpt, context.fieldExcerpt field [{ range := item.2, label }] = .ok excerpt ∧
      ∀ title footer, MarksItem context field item (.about title excerpt footer) := by
  have hshows := Document.shows_of_mem hdocument hfield
  have hcovers := hshows.items_covers item hitem
  refine ⟨_, Context.lineExcerpt_eq hshows.source fun mark hmark => ?_, fun title footer => ?_⟩
  · rw [List.mem_singleton.mp hmark]
    exact hcovers.isWithin.stop_le
  · exact ⟨_, _, rfl, rfl, rfl, hshows.source, rfl, hcovers⟩

/-- What is found about an item whose proposal cannot be read. -/
theorem itemFinding_unreadable (current reason : String) :
    rule.itemFinding context field current item (.unreadable reason) =
      (context.fieldExcerpt field [{ range := item.2, label := reason }]).map fun excerpt =>
        [.about s!"preamble header `{rule.requires}` references `{item.1}`, which could not be read" excerpt] := by
  rw [itemFinding]
  cases hexcerpt : context.fieldExcerpt field [{ range := item.2, label := reason }] <;>
    simp [hexcerpt, bind, Except.bind, pure, Except.pure, Except.map]

/-- What is found about an item whose proposal has a status. -/
theorem itemFinding_status (hflow : flowOf rule.flow = flow) (current status : String) :
    rule.itemFinding context field current item (.status status) =
      if isTooEarly flow current status then
        (context.fieldExcerpt field [{ range := item.2, label := "has a less advanced status" }]).map fun excerpt =>
          [.about (s!"preamble header `{rule.requires}` contains items not stable enough for a "
            ++ s!"`{rule.status}` of `{current}`") excerpt [referrersNote flow rule.status status]]
      else .ok [] := by
  rw [itemFinding, hflow]
  cases isTooEarly flow current status with
  | false => rfl
  | true =>
    cases hexcerpt : context.fieldExcerpt field [{ range := item.2, label := "has a less advanced status" }] <;>
      simp [hexcerpt, bind, Except.bind, pure, Except.pure, Except.map]

theorem HasStatus.ofAnswer_eq {path name status : String} (h : HasStatus path name answer status) :
    TargetStatus.ofAnswer path name answer = .ok (.status status) := by
  obtain ⟨text, document, field, rfl, hdocument, hfield, rfl⟩ := h
  rw [TargetStatus.ofAnswer, hdocument]
  dsimp only
  rw [hfield]

/-- A document with another status, which lists the same proposals, is refused for one of them if and only if
the status of that one has a lower rank. -/
theorem verdict_restated (hflow : StatusFlow.ofRanks rule.flow = .ok flow)
    (hfield : context.preamble.find? rule.requires = some field) {status other : String}
    (hother : flow.contains other) (hstatus : HasStatus (rule.path context item) rule.status answer status)
    {changed : Context} (hchanged : rule.Restates context changed other) :
    rule.verdict changed item answer = .ok [] ↔ ¬flow.Precedes status other := by
  have hproper := (StatusFlow.isProper_of_ofRanks hflow).2
  have hflowOf : flowOf rule.flow = flow := by rw [flowOf, hflow]
  obtain ⟨own', hown', rfl⟩ := hchanged.own
  obtain ⟨field', hfield', -⟩ : ∃ field', changed.preamble.find? rule.requires = some field' ∧
      field'.value = field.value := by
    have hlisted := hchanged.listed
    rw [hfield] at hlisted
    exact Option.map_eq_some_iff.mp hlisted
  have hpath : rule.path changed item = rule.path context item := by
    rw [path, path, Context.resolve, Context.resolve, hchanged.origin]
  rw [verdict_eq hown' hfield', hpath, HasStatus.ofAnswer_eq hstatus, Except.bind, itemFinding_status hflowOf,
    ← isTooEarly_iff hproper hother]
  -- whether or not its line can be shown, a verdict that is too early is not silent
  cases isTooEarly flow own'.trimmed status with
  | false => simp
  | true =>
    cases changed.fieldExcerpt field' [{ range := item.2, label := "has a less advanced status" }] <;>
      simp [Except.map]

/-- Every item of the header is judged by what there is at its path. -/
theorem judges {text : String} {origin : Option String} (hflow : StatusFlow.ofRanks rule.flow = .ok flow)
    (hdocument : Document.ofString text origin = .ok context.document)
    (hown : context.preamble.find? rule.status = some own) (hcurrent : flow.contains own.trimmed)
    (hfield : context.preamble.find? rule.requires = some field) (hitem : item ∈ field.items ",")
    (hreadable : IsReadable (rule.path context item) answer) :
    rule.Judges flow context own field item answer := by
  have hproper := (StatusFlow.isProper_of_ofRanks hflow).2
  have hflowOf : flowOf rule.flow = flow := by rw [flowOf, hflow]
  have hmem : field ∈ context.preamble.fields := List.mem_of_find?_eq_some hfield
  have hverdict := @verdict_eq rule context own field item answer hown hfield
  rcases TargetStatus.ofAnswer_cases rule.status hreadable with
    ⟨status, hstatus, htarget⟩ | ⟨hunreadable, reason, htarget⟩
  · rw [htarget, Except.bind, itemFinding_status hflowOf] at hverdict
    by_cases hlower : flow.Precedes status own.trimmed
    · -- the finding names the statuses that may refer to the listed proposal
      obtain ⟨excerpt, hexcerpt, hmarks⟩ := exists_excerpt_of_mem hdocument hmem hitem "has a less advanced status"
      rw [(isTooEarly_iff hproper hcurrent).mpr hlower, if_pos rfl, hexcerpt] at hverdict
      refine ⟨fun hnone => absurd (.early hstatus hlower) hnone, fun _ => ⟨_, hverdict, hmarks _ _⟩, ?_⟩
      intro other hother _
      obtain rfl := hstatus.unique hother
      refine ⟨_, flow.referrers status, hverdict, rfl, flow.referrers_sublist status, ?_⟩
      intro other hother changed hchanged
      have hcontains : flow.contains other := decide_eq_true hother
      obtain ⟨rank, -, hrank, -⟩ := hlower
      rw [verdict_restated hflow hfield hcontains hstatus hchanged]
      exact hproper.mem_referrers_iff hcontains (StatusFlow.contains_iff.mpr ⟨rank, hrank⟩)
    · rw [if_neg fun hearly => hlower ((isTooEarly_iff hproper hcurrent).mp hearly)] at hverdict
      refine ⟨fun _ => hverdict, ?_, ?_⟩
      · rintro (hunreadable | ⟨hother, hlower'⟩)
        · exact absurd hunreadable hstatus.not_isUnreadable
        · exact absurd (hstatus.unique hother ▸ hlower') hlower
      · intro other hother hlower'
        exact absurd (hstatus.unique hother ▸ hlower') hlower
  · obtain ⟨excerpt, hexcerpt, hmarks⟩ := exists_excerpt_of_mem hdocument hmem hitem reason
    rw [htarget, Except.bind, itemFinding_unreadable, hexcerpt] at hverdict
    exact ⟨fun hnone => absurd (.unreadable hunreadable) hnone, fun _ => ⟨_, hverdict, hmarks _ _⟩,
      fun status hstatus => absurd hunreadable hstatus.not_isUnreadable⟩

theorem Judges.exists_verdict (h : rule.Judges flow context own field item answer) :
    ∃ found, rule.verdict context item answer = .ok found ∧ rule.verdict context item answer = .ok found := by
  by_cases hdefect : rule.IsDefect flow own.trimmed (rule.path context item) answer
  · obtain ⟨snippet, hsnippet, -⟩ := h.reports hdefect
    exact ⟨[snippet], hsnippet, hsnippet⟩
  · exact ⟨[], h.silent hdefect, h.silent hdefect⟩

/-! ### All items -/

/-- The items of the list that are not empty. -/
def listed (field : Field) : List (String × Span) := (field.items ",").filter (·.1 ≠ "")

/-- Without a known status of its own or without a list, a document is not looked at. -/
theorem check_of_none (hflow : flowOf rule.flow = flow)
    (hnone : (∀ own, context.preamble.find? rule.status = some own → flow.contains own.trimmed = false) ∨
      context.preamble.find? rule.requires = none) : rule.check context = pure [] := by
  rw [check, hflow]
  cases hown : context.preamble.find? rule.status with
  | none => rfl
  | some own =>
    rcases hnone with hunknown | hmissing
    · rw [Option.filter_some_neg (by simpa using hunknown own hown)]
    · rw [hmissing]
      cases Option.filter (fun field : Field => flow.contains field.trimmed) (some own) <;> rfl

/-- With both, it asks for the items of the list. -/
theorem check_of_some (hflow : flowOf rule.flow = flow) (hown : context.preamble.find? rule.status = some own)
    (hcurrent : flow.contains own.trimmed) (hfield : context.preamble.find? rule.requires = some field) :
    rule.check context = do
      let targets ← Check.all <| (listed field).map fun item =>
        TargetStatus.fetch (rule.path context item) rule.status
      let found ← ((listed field).zip targets).mapM fun pair =>
        (rule.itemFinding context field own.trimmed pair.1 pair.2 : Finding (List Snippet))
      return found.flatten := by
  rw [check, hflow, hown, hfield, Option.filter_some_pos (by exact hcurrent)]
  rfl

theorem found_fetch (answers : String → FetchAnswer) (path name : String) :
    (TargetStatus.fetch path name).found answers = TargetStatus.ofAnswer path name (answers path) := by
  rw [TargetStatus.fetch, Check.found_bind, Check.found_fetch]
  rfl

theorem asked_fetch (answers : String → FetchAnswer) (path name : String) :
    (TargetStatus.fetch path name).asked answers = [path] := by
  rw [TargetStatus.fetch, Check.asked_bind, Check.found_fetch, Check.asked_fetch]
  rfl

/-- Each item of the list is asked for. -/
theorem asked_check (answers : String → FetchAnswer) (hflow : flowOf rule.flow = flow)
    (hown : context.preamble.find? rule.status = some own) (hcurrent : flow.contains own.trimmed)
    (hfield : context.preamble.find? rule.requires = some field) :
    (rule.check context).asked answers = (listed field).map (rule.path context) := by
  rw [check_of_some hflow hown hcurrent hfield, Check.asked_bind, Check.asked_all, List.flatMap_map]
  simp only [asked_fetch, Check.mapM_liftM, ← List.map_eq_flatMap]
  -- after that, nothing more is asked for
  split
  · rw [Check.asked_bind]
    split <;> simp
  · exact List.append_nil _

/-- Every finding is that about an item by itself. -/
theorem found_check {findings : List (List Snippet)} {answers : String → FetchAnswer}
    (hflow : flowOf rule.flow = flow) (hown : context.preamble.find? rule.status = some own)
    (hcurrent : flow.contains own.trimmed) (hfield : context.preamble.find? rule.requires = some field)
    (h : (listed field).mapM (fun item => rule.verdict context item (answers (rule.path context item))) =
      .ok findings) :
    (rule.check context).found answers = .ok findings.flatten := by
  simp only [verdict_eq hown hfield] at h
  rw [check_of_some hflow hown hcurrent hfield]
  have htargets := Check.found_all answers ((listed field).map fun item =>
    TargetStatus.fetch (rule.path context item) rule.status)
  simp only [List.mapM_map, Function.comp_def, found_fetch] at htargets
  -- the proposals are read first and judged afterwards, which gives what judging each after reading it gives
  obtain ⟨targets, hall, hzip⟩ := exists_of_bind_eq_ok (mapM_bind_zip
    (g := fun pair => rule.itemFinding context field own.trimmed pair.1 pair.2) h)
  rw [hall] at htargets
  simp only [Check.mapM_liftM]
  rw [Check.found_bind, htargets]
  dsimp only [Except.bind]
  rw [hzip]
  rfl

/-- The rule is exact for a document in which the header `field` lists proposals, and whose status is that of
`own`: it asks for the proposals of the list in order, finds what is to be found about each item, by itself,
and that is what is wrong with it. -/
structure IsExact (rule : RequiresStatusRule) (flow : StatusFlow) (context : Context) (own field : Field)
    (answers : String → FetchAnswer) : Prop where
  asked : (rule.check context).asked answers = (listed field).map (rule.path context)
  found : ∃ findings, (rule.check context).found answers = .ok findings.flatten ∧
    List.Forall₂ (fun item found => rule.verdict context item (answers (rule.path context item)) = .ok found)
      (listed field) findings
  judges : ∀ item ∈ listed field, rule.Judges flow context own field item (answers (rule.path context item))

/-- The rule is silent and asks for nothing if the status of the document is missing or unknown, or if there is
no list. Otherwise it is exact, whatever the source gives for the listed proposals, if it is no document that
has no place for its body. -/
theorem check_exact (rule : RequiresStatusRule) {flow : StatusFlow} (context : Context) {text : String}
    {origin : Option String} (source : Source) (limit : Option TimeLimit)
    (hflow : StatusFlow.ofRanks rule.flow = .ok flow)
    (hdocument : Document.ofString text origin = .ok context.document)
    (hreadable : ∀ path ∈ (rule.check context).asked (source.reasons limit),
      IsReadable path (source.reasons limit path)) :
    ((∀ own, context.preamble.find? rule.status = some own → flow.contains own.trimmed = false) ∨
        context.preamble.find? rule.requires = none →
      (rule.check context).found (source.reasons limit) = .ok [] ∧
        (rule.check context).asked (source.reasons limit) = []) ∧
    ∀ own field, context.preamble.find? rule.status = some own → flow.contains own.trimmed →
      context.preamble.find? rule.requires = some field →
      (∃ items, Listing ',' (field.name ++ ":").toList field.value.toList items ∧
        listed field = items.filter (·.1 ≠ "")) ∧
      rule.IsExact flow context own field (source.reasons limit) := by
  have hflowOf : flowOf rule.flow = flow := by rw [flowOf, hflow]
  generalize source.reasons limit = answers at *
  constructor
  · intro hnone
    rw [check_of_none hflowOf hnone]
    exact ⟨rfl, rfl⟩
  · intro own field hown hcurrent hfield
    have hasked := asked_check answers hflowOf hown hcurrent hfield
    -- every listed proposal has been asked for, so its text may be judged
    have hjudges : ∀ item ∈ listed field,
        rule.Judges flow context own field item (answers (rule.path context item)) := by
      intro item hitem
      refine judges hflow hdocument hown hcurrent hfield (List.mem_filter.mp hitem).1 (hreadable _ ?_)
      rw [hasked]
      exact List.mem_map_of_mem hitem
    obtain ⟨findings, hfindings, hall⟩ := exists_mapM_eq_ok fun item hitem => (hjudges item hitem).exists_verdict
    exact ⟨⟨field.items ",", field.listing_items, rfl⟩, hasked,
      ⟨findings, found_check hflowOf hown hcurrent hfield hfindings, hall⟩, hjudges⟩

/-- Four of five listed proposals are defects: one with an earlier status, one that comes too late, one that is no
document, and one without a status. -/
theorem check_exact_mixed :
    let rule : RequiresStatusRule := ⟨"requires", "status", [["Draft"], ["Review", "Last Call"], ["Final"]], "eip-", ".md"⟩
    let source : Source := fun path =>
      if path = "eip-1.md" then .text "---\nstatus: Review\n---\n"
      else if path = "eip-2.md" then .late
      else if path = "eip-3.md" then .text "status: Final"
      else if path = "eip-4.md" then .text "---\neip: 4\n---\n"
      else .text "---\nstatus: Final \n---\n"
    ∃ document own field, Document.ofString "---\nstatus: Final\nrequires: 1,2, 3,,é, 4\n---\n" none = .ok document ∧
      document.preamble.find? "requires" = some field ∧
      (rule.check ⟨document, {}⟩).asked (source.reasons none) =
        ["eip-1.md", "eip-2.md", "eip-3.md", "eip-é.md", "eip-4.md"] ∧
      rule.IsExact ⟨rule.flow⟩ ⟨document, {}⟩ own field (source.reasons none) := by
  intro rule source
  obtain ⟨document, hdocument, -, hfacts⟩ := Document.exists_of_map_ofString
    (f := fun document => ((document.preamble.find? "status").map (·.trimmed),
      (document.preamble.find? "requires").isSome, (rule.check ⟨document, {}⟩).asked (source.reasons none)))
    (show (Document.ofString "---\nstatus: Final\nrequires: 1,2, 3,,é, 4\n---\n" none).map _ =
      .ok (some "Final", true, ["eip-1.md", "eip-2.md", "eip-3.md", "eip-é.md", "eip-4.md"]) by decide +kernel)
  obtain ⟨hstatus, hsome, hasked⟩ : _ ∧ _ ∧ _ := by simpa only [Prod.mk.injEq] using hfacts
  obtain ⟨own, hown, htrimmed⟩ := Option.map_eq_some_iff.mp hstatus
  obtain ⟨field, hfield⟩ := Option.isSome_iff_exists.mp hsome
  have hreadable : ∀ path ∈ (rule.check ⟨document, {}⟩).asked (source.reasons none),
      IsReadable path (source.reasons none path) := by
    rw [hasked]
    decide +kernel
  have hexact := @check_exact rule ⟨rule.flow⟩ ⟨document, {}⟩ _ _ source none (by rfl) hdocument hreadable
  exact ⟨document, own, field, hdocument, hfield, hasked, (hexact.2 own field hown (by rw [htrimmed]; rfl) hfield).2⟩

end RequiresStatusRule

end ProposalCheck

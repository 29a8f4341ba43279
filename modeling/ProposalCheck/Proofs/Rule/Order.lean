import Mathlib.Data.List.Sort
import ProposalCheck.Proofs.Rule.Body
import ProposalCheck.Proofs.Rule.Header
import ProposalCheck.Proofs.Rule.Presence

/-!
# Headers and sections out of order

Two rules go through items that should stand in order of their keys: headers with their ranks, and the first headings
of sections with their lines. Both keep the last item that was in order and report an item whose key is smaller. The
one that is kept has the greatest key of all items before, those out of order included. So an item is reported if and
only if an item with a greater key comes before it, and the item that is named has the greatest key of these.

## Main definitions

* `withEarlier`: the items of a list, each with those before it
* `IsOvertaken`, `IsTop`: an item with a greater key comes before; an item has the greatest key
* `overtaken`: what one pass over the items finds
* `ReportsUnknown`: items that are unknown are reported together

## Main results

* `overtaken_spec`: one pass finds the items that are overtaken, each with a top of the items before it
* `OrderRule.headers_exact`: headers out of order, and unknown ones
* `SectionOrderRule.sections_exact`: sections out of order, and unknown ones
-/

namespace ProposalCheck

/-! ### Items out of order -/

section Items

variable {α : Type} {key : α → Nat} {earlier front items : List α} {item top : α}

/-- The items of a list, each with those before it: `front` and the items of the list up to there. -/
def withEarlier (front : List α) : List α → List (List α × α)
  | [] => []
  | item :: rest => (front, item) :: withEarlier (front ++ [item]) rest

/-- One of the items before an item has a greater key. -/
def IsOvertaken (key : α → Nat) (earlier : List α) (item : α) : Prop := ∃ other ∈ earlier, key item < key other

instance : Decidable (IsOvertaken key earlier item) :=
  inferInstanceAs (Decidable (∃ other ∈ earlier, key item < key other))

/-- An item has the greatest key of some items. -/
structure IsTop (key : α → Nat) (items : List α) (top : α) : Prop where
  mem : top ∈ items
  le : ∀ other ∈ items, key other ≤ key top

/-- The items out of order among `items`, each with the item that is kept when it is met. That is the last one in
order; `kept` is the one before the first of `items`. -/
def overtaken (key : α → Nat) (kept : Option α) : List α → List (α × α)
  | [] => []
  | item :: rest =>
    match kept with
    | none => overtaken key (some item) rest
    | some top =>
      if key top ≤ key item then overtaken key (some item) rest else (item, top) :: overtaken key (some top) rest

/-- The item that is kept is the top of what has been passed; none is kept at the start only. -/
def IsKept (key : α → Nat) (front : List α) : Option α → Prop
  | none => front = []
  | some top => IsTop key front top

theorem IsTop.isOvertaken_iff (h : IsTop key earlier top) : IsOvertaken key earlier item ↔ key item < key top :=
  ⟨fun ⟨other, hother, hlt⟩ => Nat.lt_of_lt_of_le hlt (h.le other hother), fun hlt => ⟨top, h.mem, hlt⟩⟩

theorem IsTop.append_of_le (h : IsTop key front top) (hle : key top ≤ key item) : IsTop key (front ++ [item]) item := by
  refine ⟨List.mem_append_right _ (List.mem_singleton_self item), fun other hother => ?_⟩
  rcases List.mem_append.mp hother with hother | hother
  · exact Nat.le_trans (h.le other hother) hle
  · rw [List.mem_singleton.mp hother]

theorem IsTop.append_of_ge (h : IsTop key front top) (hge : key item ≤ key top) : IsTop key (front ++ [item]) top := by
  refine ⟨List.mem_append_left _ h.mem, fun other hother => ?_⟩
  rcases List.mem_append.mp hother with hother | hother
  · exact h.le other hother
  · rw [List.mem_singleton.mp hother]
    exact hge

/-- The item that is kept is no smaller than any before: a pass finds the items that are overtaken, each with a top of
the items before it. -/
theorem overtaken_spec_of_isKept {kept : Option α} (h : IsKept key front kept) :
    List.Forall₂ (fun entry found => found.1 = entry.2 ∧ IsTop key entry.1 found.2)
      ((withEarlier front items).filter fun entry => IsOvertaken key entry.1 entry.2) (overtaken key kept items) := by
  induction items generalizing front kept with
  | nil => exact .nil
  | cons item rest ih =>
    rw [withEarlier, overtaken.eq_def]
    dsimp only
    -- an item is overtaken by the one that is kept, or it is kept from now on
    cases kept with
    | none =>
      obtain rfl : front = [] := h
      rw [List.filter_cons_of_neg (by simp [IsOvertaken])]
      have hkept : IsKept key [item] (some item) := ⟨List.mem_singleton_self item, by simp⟩
      exact ih hkept
    | some top =>
      have htop : IsTop key front top := h
      dsimp only
      split_ifs with hle
      · have hnot : ¬IsOvertaken key front item := by
          rw [htop.isOvertaken_iff]
          omega
        rw [List.filter_cons_of_neg (by simpa using hnot)]
        have hkept : IsKept key (front ++ [item]) (some item) := htop.append_of_le hle
        exact ih hkept
      · have hover : IsOvertaken key front item := htop.isOvertaken_iff.mpr (by omega)
        rw [List.filter_cons_of_pos (by simpa using hover)]
        have hkept : IsKept key (front ++ [item]) (some top) := htop.append_of_ge (by omega)
        exact .cons ⟨rfl, htop⟩ (ih hkept)

theorem overtaken_spec (key : α → Nat) (items : List α) :
    List.Forall₂ (fun entry found => found.1 = entry.2 ∧ IsTop key entry.1 found.2)
      ((withEarlier [] items).filter fun entry => IsOvertaken key entry.1 entry.2) (overtaken key none items) :=
  overtaken_spec_of_isKept rfl

theorem mem_of_mem_withEarlier {entry : List α × α} (h : entry ∈ withEarlier front items) : entry.2 ∈ items := by
  induction items generalizing front with
  | nil => cases h
  | cons item rest ih =>
    rcases List.mem_cons.mp h with rfl | h
    · exact List.mem_cons_self
    · exact List.mem_cons_of_mem _ (ih h)

/-- A relation holds from left to right if it holds from the items before each item to that one. -/
theorem pairwise_iff_withEarlier {R : α → α → Prop} :
    (∀ entry ∈ withEarlier front items, ∀ other ∈ entry.1, R other entry.2) ↔
      items.Pairwise R ∧ ∀ other ∈ front, ∀ item ∈ items, R other item := by
  induction items generalizing front with
  | nil => simp [withEarlier]
  | cons item rest ih =>
    simp only [withEarlier, List.forall_mem_cons, ih, List.pairwise_cons, List.forall_mem_append]
    grind

/-- Nothing is overtaken if and only if the keys never decrease. -/
theorem filter_isOvertaken_eq_nil_iff :
    ((withEarlier [] items).filter fun entry => IsOvertaken key entry.1 entry.2) = [] ↔
      items.Pairwise (key · ≤ key ·) := by
  have hpairwise : (∀ entry ∈ withEarlier [] items, ∀ other ∈ entry.1, key other ≤ key entry.2) ↔
      items.Pairwise (key · ≤ key ·) := by
    simpa only [List.not_mem_nil, false_implies, implies_true, and_true] using
      @pairwise_iff_withEarlier α [] items fun a b => key a ≤ key b
  rw [List.filter_eq_nil_iff, ← hpairwise]
  refine forall₂_congr fun entry _ => ?_
  rw [decide_eq_true_eq, IsOvertaken]
  push Not
  rfl

end Items

/-! ### What is reported -/

section Reports

variable {α β γ ε : Type}

/-- Items that are unknown are reported together, with an excerpt for each of them. -/
structure ReportsUnknown (title : String) (Shows : α → Excerpt → Prop) (unknown : List α) (found : List Snippet) :
    Prop where
  silent : unknown = [] → found = []
  reports : unknown ≠ [] →
    ∃ excerpts, found = [{ title := { label := title }, excerpts }] ∧ List.Forall₂ Shows unknown excerpts

theorem ReportsUnknown.eq_nil_iff {title : String} {Shows : α → Excerpt → Prop} {unknown : List α}
    {found : List Snippet} (h : ReportsUnknown title Shows unknown found) : found = [] ↔ unknown = [] := by
  refine ⟨fun hnil => ?_, h.silent⟩
  by_contra hne
  obtain ⟨excerpts, hfound, -⟩ := h.reports hne
  rw [hnil] at hfound
  cases hfound

/-- A computation for each item of a second list gives results that are related to the first list. -/
theorem exists_mapM_of_forall₂ {f : β → Except ε γ} {R : α → γ → Prop} {items : List α} {others : List β}
    (h : List.Forall₂ (fun item other => ∃ result, f other = .ok result ∧ R item result) items others) :
    ∃ results, others.mapM f = .ok results ∧ List.Forall₂ R items results := by
  induction h with
  | nil => exact ⟨[], rfl, .nil⟩
  | cons hfirst _ ih =>
    obtain ⟨result, hresult, hrel⟩ := hfirst
    obtain ⟨results, hresults, hrels⟩ := ih
    exact ⟨result :: results, by simp [List.mapM_cons, hresult, hresults, bind, Except.bind, pure, Except.pure],
      .cons hrel hrels⟩

/-- Unknown items and then items out of order are reported if all of them can be shown. -/
theorem exists_extra_misplaced {show? : α → Finding Excerpt} {report? : β → Finding Snippet}
    {Shows : α → Excerpt → Prop} {Reports : γ → Snippet → Prop} {unknown : List α} {entries : List γ} {found : List β}
    (title : String) (hunknown : ∀ item ∈ unknown, ∃ excerpt, show? item = .ok excerpt ∧ Shows item excerpt)
    (hfound : List.Forall₂ (fun entry found => ∃ snippet, report? found = .ok snippet ∧ Reports entry snippet)
      entries found) :
    ∃ extra misplaced, found.mapM report? = .ok misplaced ∧
      (do
        let excerpts ← unknown.mapM show?
        let misplaced ← found.mapM report?
        return (if unknown.isEmpty then [] else [{ title := { label := title }, excerpts }]) ++ misplaced) =
        Except.ok (extra ++ misplaced) ∧
      ReportsUnknown title Shows unknown extra ∧ List.Forall₂ Reports entries misplaced := by
  obtain ⟨excerpts, hexcerpts, hshows⟩ := exists_mapM_eq_ok hunknown
  obtain ⟨misplaced, hmisplaced, hreports⟩ := exists_mapM_of_forall₂ hfound
  refine ⟨if unknown.isEmpty then [] else [{ title := { label := title }, excerpts }], misplaced, hmisplaced, ?_,
    ⟨fun hnil => ?_, fun hne => ⟨excerpts, ?_, hshows⟩⟩, hreports⟩
  · rw [hexcerpts, hmisplaced]
    rfl
  · rw [hnil]
    rfl
  · rw [if_neg (by simpa using hne)]

end Reports

/-! ### Headers -/

namespace OrderRule

variable {context : Context} {names : List String} {field : Field} {fields : List Field}

/-- Is the name of a header listed, but for blanks around it? -/
def lists (rule : OrderRule) (field : Field) : Bool := rule.names.contains (trim field.name)

/-- The place of the name of a header in the list. -/
def rank (rule : OrderRule) (field : Field) : Nat := rule.names.idxOf (trim field.name)

/-- An excerpt shows the line of a header, with one mark, on exactly its name. -/
structure MarksName (context : Context) (label : String) (field : Field) (excerpt : Excerpt) : Prop where
  lineStart : excerpt.lineStart = field.line
  source : context.lines.line field.line = .ok excerpt.source
  marks : excerpt.marks = [{ range := field.nameRange, label }]
  covers : field.nameRange.Covers excerpt.source.toList field.name.toList

/-- A finding about a header names the one with the highest rank among those before it. -/
def Reports (rule : OrderRule) (context : Context) (entry : List Field × Field) (snippet : Snippet) : Prop :=
  ∃ top excerpt, IsTop rule.rank entry.1 top ∧ MarksName context "out of order" entry.2 excerpt ∧
    snippet = .about s!"preamble header `{trim entry.2.name}` must come before `{trim top.name}`" excerpt
      [.help ("headers must appear in the order: " ++ listNames rule.names)]

/-- In a list of different names, a name has one place. -/
theorem rank?_eq (h : names.Nodup) (name : String) :
    rank? names name = if names.contains name then some (names.idxOf name) else none := by
  rw [rank?]
  split_ifs with hmem
  · obtain ⟨before, after, rfl, hbefore⟩ := List.eq_append_cons_of_mem (List.contains_iff_mem.mp hmem)
    have hafter : name ∉ after := (List.nodup_cons.mp (List.nodup_append.mp h).2.1).1
    have hnone : after.reverse.findIdx? (· = name) = none := by
      rw [List.findIdx?_eq_none_iff]
      rintro other hother
      rw [decide_eq_false_iff_not]
      rintro rfl
      exact hafter (List.mem_reverse.mp hother)
    rw [List.idxOf_append_of_notMem hbefore, List.idxOf_cons_self, List.reverse_append, List.reverse_cons,
      List.append_assoc, List.findIdx?_append, hnone]
    simp [List.findIdx?_cons]
  · simpa [List.findIdx?_eq_none_iff] using fun other hother heq => hmem (by simpa [← heq] using hother)

/-- The rule goes through the listed headers and keeps the one with the highest rank. -/
theorem outOfOrder_eq (rule : OrderRule) (h : rule.names.Nodup) (kept : Option Field) (fields : List Field) :
    outOfOrder rule.names (kept.map fun top => (rule.rank top, trim top.name)) fields =
      (overtaken rule.rank kept (fields.filter rule.lists)).map fun found => (found.1, trim found.2.name) := by
  induction fields generalizing kept with
  | nil => rfl
  | cons field rest ih =>
    have hrank : rank? rule.names (trim field.name) = if rule.lists field then some (rule.rank field) else none :=
      rank?_eq h _
    rw [outOfOrder.eq_def]
    dsimp only
    -- a header that is not listed has no rank and is passed over
    cases hlists : rule.lists field with
    | false =>
      rw [hlists, if_neg (by simp)] at hrank
      rw [hrank, List.filter_cons_of_neg (by simp [hlists])]
      exact ih kept
    | true =>
      rw [hlists, if_pos rfl] at hrank
      rw [hrank, List.filter_cons_of_pos hlists, overtaken.eq_def]
      cases kept with
      | none => exact ih (some field)
      | some top =>
        dsimp only [Option.map_some]
        split_ifs with hle
        · exact ih (some field)
        · rw [List.map_cons, ← ih (some top)]
          rfl

/-- The name of a header of a document can be shown. -/
theorem exists_nameExcerpt {text : String} {origin : Option String}
    (h : Document.ofString text origin = .ok context.document) (hfield : field ∈ context.preamble.fields)
    (label : String) :
    ∃ excerpt, nameExcerpt context field label = .ok excerpt ∧ MarksName context label field excerpt := by
  have hshows := Document.shows_of_mem h hfield
  refine ⟨_, Context.lineExcerpt_eq hshows.source fun mark hmark => ?_, rfl, hshows.source, rfl,
    hshows.nameRange_covers⟩
  rw [List.mem_singleton.mp hmark]
  exact hshows.nameRange_isWithin.stop_le

/-- The finding about a header out of order. -/
def finding (rule : OrderRule) (context : Context) (found : Field × String) : Finding Snippet := do
  let title := s!"preamble header `{trim found.1.name}` must come before `{found.2}`"
  return .about title (← nameExcerpt context found.1 "out of order")
    [.help ("headers must appear in the order: " ++ listNames rule.names)]

/-- The rule reports headers of unknown names and then those out of order. -/
theorem check_eq (rule : OrderRule) (context : Context) :
    rule.check context = do
      let excerpts ← (context.preamble.fields.filter (!rule.lists ·)).mapM (nameExcerpt context · "unrecognized header")
      let misplaced ← (outOfOrder rule.names none context.preamble.fields).mapM (rule.finding context)
      return (if (context.preamble.fields.filter (!rule.lists ·)).isEmpty then []
        else [{ title := { label := "preamble has extra header(s)" }, excerpts }]) ++ misplaced := rfl

/-- Without headers of unknown names, the rule finds what is out of order, and nothing else. -/
theorem check_only {rule : OrderRule} (h : ∀ field ∈ fields, rule.lists field) :
    rule.check (context.only fields) = (outOfOrder rule.names none fields).mapM (rule.finding context) := by
  have hnone : fields.filter (!rule.lists ·) = [] :=
    List.filter_eq_nil_iff.mpr fun field hfield => by simp [h field hfield]
  have hfields : (context.only fields).preamble.fields = fields := rfl
  rw [check_eq, hfields, hnone]
  exact bind_pure (m := Except RuleError) _

/-- Every header that the rule finds out of order can be shown, with the highest of the headers before it. -/
theorem forall₂_finding (rule : OrderRule) {text : String} {origin : Option String} (hnames : rule.names.Nodup)
    (hdocument : Document.ofString text origin = .ok context.document) :
    List.Forall₂ (fun entry found => ∃ snippet, rule.finding context found = .ok snippet ∧
        rule.Reports context entry snippet)
      ((withEarlier [] (context.preamble.fields.filter rule.lists)).filter fun entry =>
        IsOvertaken rule.rank entry.1 entry.2) (outOfOrder rule.names none context.preamble.fields) := by
  have houtOfOrder := rule.outOfOrder_eq hnames none context.preamble.fields
  rw [Option.map_none] at houtOfOrder
  rw [houtOfOrder, List.forall₂_map_right_iff]
  have hmem : ∀ entry ∈ (withEarlier [] (context.preamble.fields.filter rule.lists)).filter fun entry =>
      IsOvertaken rule.rank entry.1 entry.2, entry.2 ∈ context.preamble.fields := fun entry hentry =>
    (List.mem_filter.mp (mem_of_mem_withEarlier (List.mem_filter.mp hentry).1)).1
  refine ((List.forall₂_and_left _ _).mpr ⟨hmem, overtaken_spec rule.rank _⟩).imp ?_
  rintro entry ⟨field, top⟩ ⟨hfield, rfl, htop⟩
  obtain ⟨excerpt, hexcerpt, hmarks⟩ := exists_nameExcerpt hdocument hfield "out of order"
  refine ⟨_, ?_, top, excerpt, htop, hmarks, rfl⟩
  rw [finding, hexcerpt]
  rfl

/-- A listed header is reported if and only if one with a higher rank comes before it, each once, in the order of the
document, and with the name of the highest of these. All headers of unknown names are reported at once, and without
them the others are reported alike. So nothing is reported if and only if all headers are listed and the ranks never
decrease. -/
theorem headers_exact (rule : OrderRule) {text : String} {origin : Option String} (hnames : rule.names.Nodup)
    (hdocument : Document.ofString text origin = .ok context.document) :
    ∃ extra misplaced, rule.check context = .ok (extra ++ misplaced) ∧
      ReportsUnknown "preamble has extra header(s)" (MarksName context "unrecognized header")
        (context.preamble.fields.filter (!rule.lists ·)) extra ∧
      List.Forall₂ (rule.Reports context)
        ((withEarlier [] (context.preamble.fields.filter rule.lists)).filter fun entry =>
          IsOvertaken rule.rank entry.1 entry.2) misplaced ∧
      rule.check (context.only (context.preamble.fields.filter rule.lists)) = .ok misplaced ∧
      (rule.check context = .ok [] ↔ (∀ field ∈ context.preamble.fields, trim field.name ∈ rule.names) ∧
        context.preamble.fields.Pairwise (rule.rank · ≤ rule.rank ·)) := by
  have hunlisted : ∀ field ∈ context.preamble.fields.filter (!rule.lists ·), ∃ excerpt,
      nameExcerpt context field "unrecognized header" = .ok excerpt ∧
        MarksName context "unrecognized header" field excerpt := fun field hfield =>
    exists_nameExcerpt hdocument (List.mem_filter.mp hfield).1 "unrecognized header"
  obtain ⟨extra, misplaced, hmisplaced, hcheck, hextra, hreports⟩ :=
    exists_extra_misplaced "preamble has extra header(s)" hunlisted (rule.forall₂_finding hnames hdocument)
  rw [← check_eq] at hcheck
  refine ⟨extra, misplaced, hcheck, hextra, hreports, ?_, ?_⟩
  · -- headers that are not listed change nothing for the others
    have hsame : outOfOrder rule.names none (context.preamble.fields.filter rule.lists) =
        outOfOrder rule.names none context.preamble.fields := by
      have hlisted := rule.outOfOrder_eq hnames none
      rw [Option.map_none] at hlisted
      rw [hlisted, hlisted, List.filter_filter]
      simp only [Bool.and_self]
    rw [check_only fun field hfield => (List.mem_filter.mp hfield).2, hsame, hmisplaced]
  · have hnil : misplaced = [] ↔ (context.preamble.fields.filter rule.lists).Pairwise (rule.rank · ≤ rule.rank ·) := by
      rw [← filter_isOvertaken_eq_nil_iff, ← List.length_eq_zero_iff, ← hreports.length_eq, List.length_eq_zero_iff]
    rw [hcheck, Except.ok.injEq, List.append_eq_nil_iff, hextra.eq_nil_iff, hnil, List.filter_eq_nil_iff]
    have hall : (∀ field ∈ context.preamble.fields, ¬(!rule.lists field) = true) ↔
        ∀ field ∈ context.preamble.fields, trim field.name ∈ rule.names := by
      simp [lists]
    rw [hall]
    refine and_congr_right fun hlisted => ?_
    have hself : context.preamble.fields.filter rule.lists = context.preamble.fields :=
      List.filter_eq_self.mpr fun field hfield => List.contains_iff_mem.mpr (hlisted field hfield)
    rw [hself]

/-- The first and the third listed header have a higher rank than the one after each. -/
theorem headers_exact_unsorted :
    let rule : OrderRule := ⟨["a", "b", "c"]⟩
    rule.names.Nodup ∧ ∃ document, Document.ofString "---\nb: 1\nx: 2\na: 3\nc: 4\n b: 5\n---\n" none = .ok document ∧
      document.preamble.fields.length = 5 ∧
      ∃ extra misplaced, rule.check ⟨document, {}⟩ = .ok (extra ++ misplaced) ∧
        ReportsUnknown "preamble has extra header(s)" (MarksName ⟨document, {}⟩ "unrecognized header")
          (document.preamble.fields.filter (!rule.lists ·)) extra ∧
        List.Forall₂ (rule.Reports ⟨document, {}⟩)
          ((withEarlier [] (document.preamble.fields.filter rule.lists)).filter fun entry =>
            IsOvertaken rule.rank entry.1 entry.2) misplaced := by
  intro rule
  have hnames : rule.names.Nodup := by decide
  obtain ⟨document, hdocument, -, hcount⟩ := Document.exists_of_map_ofString
    (f := fun document => document.preamble.fields.length)
    (show (Document.ofString "---\nb: 1\nx: 2\na: 3\nc: 4\n b: 5\n---\n" none).map _ = .ok 5 by decide +kernel)
  obtain ⟨extra, misplaced, hcheck, hextra, hreports, -, -⟩ :=
    @headers_exact ⟨document, {}⟩ rule _ _ hnames hdocument
  exact ⟨hnames, document, hdocument, hcount, extra, misplaced, hcheck, hextra, hreports⟩

end OrderRule

/-! ### Sections -/

namespace SectionOrderRule

variable {context : Context} {headings : List SectionHeading} {heading : SectionHeading}

/-- The first headings of the listed sections, in the order of the list. -/
def listed (rule : SectionOrderRule) (headings : List SectionHeading) : List SectionHeading :=
  rule.sections.filterMap (SectionHeading.first? headings)

/-- The headings of sections that are not listed. -/
def unlisted (rule : SectionOrderRule) (headings : List SectionHeading) : List SectionHeading :=
  headings.filter fun heading => !rule.sections.contains heading.name

/-- An excerpt shows the line of a heading, with one mark. -/
structure MarksHeading (context : Context) (label : String) (heading : SectionHeading) (excerpt : Excerpt) : Prop where
  lineStart : excerpt.lineStart = heading.line
  source : context.lines.line heading.line = .ok excerpt.source
  marks : ∃ mark, excerpt.marks = [mark] ∧ mark.label = label ∧ mark.range.IsWithin excerpt.source

/-- A finding about a section names the one that starts on the lowest line among those listed before it. -/
def Reports (context : Context) (entry : List SectionHeading × SectionHeading) (snippet : Snippet) : Prop :=
  ∃ lowest excerpt, IsTop SectionHeading.line entry.1 lowest ∧ MarksHeading context "out of order" entry.2 excerpt ∧
    snippet = .about s!"section `{entry.2.name}` must come after `{lowest.name}`" excerpt

/-- The rule goes through the first headings of the listed sections and keeps the lowest. -/
theorem outOfOrder_of_lowest (lowest : SectionHeading) (headings : List SectionHeading) :
    outOfOrder (lowest.line, lowest.name) headings =
      (overtaken SectionHeading.line (some lowest) headings).map fun found => (found.1, found.2.name) := by
  induction headings generalizing lowest with
  | nil => rfl
  | cons heading rest ih =>
    rw [outOfOrder, overtaken]
    dsimp only
    split_ifs with hle
    · exact ih heading
    · rw [ih lowest, List.map_cons]

/-- The first of all is never out of order. -/
theorem outOfOrder_eq (headings : List SectionHeading) :
    outOfOrder (0, "") headings =
      (overtaken SectionHeading.line none headings).map fun found => (found.1, found.2.name) := by
  cases headings with
  | nil => rfl
  | cons heading rest =>
    rw [outOfOrder, if_pos (Nat.zero_le _), outOfOrder_of_lowest]
    rfl

/-- The heading of a section can be shown. -/
theorem exists_excerpt (h : context.HoldsNodes) (hheading : heading ∈ SectionHeading.all context.body)
    (label : String) :
    ∃ excerpt, heading.excerpt context label = .ok excerpt ∧ MarksHeading context label heading excerpt := by
  obtain ⟨hnode, last, hlines⟩ := SectionHeading.exists_of_mem_all hheading
  obtain ⟨source, hline, range, hrange, hwithin⟩ := h.nodeRange hnode hlines
  rw [SectionHeading.excerpt, Context.nodeExcerpt, hrange]
  dsimp only [bind, Except.bind]
  rw [Context.checkMark_eq hwithin.le]
  dsimp only
  rw [Context.lineExcerpt_eq hline (List.forall_mem_singleton.mpr hwithin.stop_le)]
  exact ⟨_, rfl, rfl, hline, _, rfl, rfl, hwithin⟩

/-- The finding about a section out of order. -/
def finding (context : Context) (found : SectionHeading × String) : Finding Snippet := do
  let title := s!"section `{found.1.name}` must come after `{found.2}`"
  return .about title (← found.1.excerpt context "out of order")

/-- The rule reports sections of unknown names and then those out of order. -/
theorem check_eq (rule : SectionOrderRule) (context : Context) :
    rule.check context = do
      let excerpts ← (rule.unlisted (SectionHeading.all context.body)).mapM
        (SectionHeading.excerpt context "unrecognized section")
      let misplaced ← (outOfOrder (0, "") (rule.listed (SectionHeading.all context.body))).mapM (finding context)
      return (if (rule.unlisted (SectionHeading.all context.body)).isEmpty then []
        else [{ title := { label := "body has extra section(s)" }, excerpts }]) ++ misplaced := rfl

/-- The first heading of a section has its name. -/
theorem name_of_first? {name : String} (h : SectionHeading.first? headings name = some heading) :
    heading ∈ headings ∧ heading.name = name :=
  ⟨List.mem_of_find?_eq_some h, by simpa using List.find?_some h⟩

theorem mem_of_mem_listed {rule : SectionOrderRule} (h : heading ∈ rule.listed headings) : heading ∈ headings := by
  obtain ⟨name, -, hfirst⟩ := List.mem_filterMap.mp h
  exact (name_of_first? hfirst).1

/-- First headings on the same lines are listed alike. -/
theorem listed_congr {rule : SectionOrderRule} {others : List SectionHeading}
    (h : ∀ name ∈ rule.sections, (SectionHeading.first? others name).map (·.line) =
      (SectionHeading.first? headings name).map (·.line)) :
    (rule.listed others).map (fun heading => (heading.name, heading.line)) =
      (rule.listed headings).map fun heading => (heading.name, heading.line) := by
  have hpair : ∀ (all : List SectionHeading) (name : String),
      (SectionHeading.first? all name).map (fun heading => (heading.name, heading.line)) =
        ((SectionHeading.first? all name).map (·.line)).map fun line => (name, line) := fun all name => by
    cases hfirst : SectionHeading.first? all name with
    | none => rfl
    | some heading => rw [Option.map_some, (name_of_first? hfirst).2, Option.map_some, Option.map_some]
  rw [listed, listed, List.map_filterMap, List.map_filterMap]
  exact List.filterMap_congr fun name hname => by rw [hpair, hpair, h name hname]

/-- Every section that the rule finds out of order can be shown, with the lowest of those listed before it. -/
theorem forall₂_finding (rule : SectionOrderRule) (h : context.HoldsNodes) :
    List.Forall₂ (fun entry found => ∃ snippet, finding context found = .ok snippet ∧ Reports context entry snippet)
      ((withEarlier [] (rule.listed (SectionHeading.all context.body))).filter fun entry =>
        IsOvertaken SectionHeading.line entry.1 entry.2)
      (outOfOrder (0, "") (rule.listed (SectionHeading.all context.body))) := by
  rw [outOfOrder_eq, List.forall₂_map_right_iff]
  have hmem : ∀ entry ∈ (withEarlier [] (rule.listed (SectionHeading.all context.body))).filter fun entry =>
      IsOvertaken SectionHeading.line entry.1 entry.2, entry.2 ∈ SectionHeading.all context.body :=
    fun entry hentry => mem_of_mem_listed (mem_of_mem_withEarlier (List.mem_filter.mp hentry).1)
  refine ((List.forall₂_and_left _ _).mpr ⟨hmem, overtaken_spec SectionHeading.line _⟩).imp ?_
  rintro entry ⟨heading, lowest⟩ ⟨hheading, rfl, hlowest⟩
  obtain ⟨excerpt, hexcerpt, hmarks⟩ := exists_excerpt h hheading "out of order"
  refine ⟨_, ?_, lowest, excerpt, hlowest, hmarks, rfl⟩
  rw [finding, hexcerpt]
  rfl

/-- Different sections have different first headings. -/
theorem nodup_listed {rule : SectionOrderRule} (h : rule.sections.Nodup) (headings : List SectionHeading) :
    (rule.listed headings).Nodup := by
  refine h.filterMap fun first second heading hfirst hsecond => ?_
  rw [← (name_of_first? hfirst).2, (name_of_first? hsecond).2]

/-- First headings on lines that never decrease are among all headings in the same order. -/
theorem pairwise_listed_iff {rule : SectionOrderRule} (h : rule.sections.Nodup)
    (hlines : headings.Pairwise (·.line < ·.line)) :
    (rule.listed headings).Pairwise (·.line ≤ ·.line) ↔ (rule.listed headings).Sublist headings := by
  constructor
  · intro hle
    -- two headings on one line are the same
    have hlt : (rule.listed headings).Pairwise (·.line < ·.line) := by
      refine (hle.and (nodup_listed h headings)).imp_of_mem fun {first second} hfirst hsecond hboth => ?_
      refine Nat.lt_of_le_of_ne hboth.1 fun heq => hboth.2 ?_
      exact List.inj_on_of_nodup_map (hlines.map _ fun _ _ hlt => Nat.ne_of_lt hlt) (mem_of_mem_listed hfirst)
        (mem_of_mem_listed hsecond) heq
    have : Std.Antisymm fun first second : SectionHeading => first.line < second.line :=
      ⟨fun first second hfirst hsecond => absurd hfirst (Nat.lt_asymm hsecond)⟩
    have hsubperm := List.subperm_of_subset (nodup_listed h headings) fun heading => mem_of_mem_listed
    exact List.sublist_of_subperm_of_pairwise hsubperm hlt hlines
  · exact fun hsublist => (hlines.sublist hsublist).imp Nat.le_of_lt

/-- What is out of order depends on the names and the lines of the headings only. -/
theorem outOfOrder_congr {lowest : Nat × String} {others : List SectionHeading}
    (h : headings.map (fun heading => (heading.name, heading.line)) =
      others.map fun heading => (heading.name, heading.line)) :
    (outOfOrder lowest headings).map (fun found => (found.1.name, found.1.line, found.2)) =
      (outOfOrder lowest others).map fun found => (found.1.name, found.1.line, found.2) := by
  induction headings generalizing lowest others with
  | nil =>
    rw [List.map_eq_nil_iff.mp h.symm]
  | cons heading rest ih =>
    obtain ⟨other, others, rfl, hother, hrest⟩ := List.map_eq_cons_iff.mp h.symm
    obtain ⟨hname, hline⟩ := Prod.mk.inj hother
    rw [outOfOrder, outOfOrder, hname, hline]
    split_ifs with hle
    · exact ih hrest.symm
    · rw [List.map_cons, List.map_cons, ih hrest.symm, hname, hline]

/-- The title of a finding and the lines it shows. -/
def outline (snippet : Snippet) : String × List Int := (snippet.title.label, snippet.excerpts.map (·.lineStart))

/-- The title of a finding about a section out of order, and the line it shows, are known from the names of the two
sections and from the line of the first. -/
theorem map_outline_eq {rule : SectionOrderRule} (h : context.HoldsNodes) {misplaced : List Snippet}
    (hmisplaced : (outOfOrder (0, "") (rule.listed (SectionHeading.all context.body))).mapM (finding context) =
      .ok misplaced) :
    misplaced.map outline =
      ((outOfOrder (0, "") (rule.listed (SectionHeading.all context.body))).map fun found =>
        (found.1.name, found.1.line, found.2)).map fun (name, line, lowest) =>
          (s!"section `{name}` must come after `{lowest}`", [(line : Int)]) := by
  have hfindings : ∀ found ∈ outOfOrder (0, "") (rule.listed (SectionHeading.all context.body)), ∃ snippet,
      finding context found = .ok snippet ∧
        (s!"section `{found.1.name}` must come after `{found.2}`", [(found.1.line : Int)]) = outline snippet := by
    intro found hfound
    have hheading := mem_of_mem_listed (mem_of_mem_outOfOrder hfound)
    obtain ⟨excerpt, hexcerpt, hmarks⟩ := exists_excerpt h hheading "out of order"
    refine ⟨.about s!"section `{found.1.name}` must come after `{found.2}`" excerpt, ?_, ?_⟩
    · rw [finding, hexcerpt]
      rfl
    · rw [outline, ← hmarks.lineStart]
      rfl
  obtain ⟨snippets, hsnippets, houtlines⟩ := exists_mapM_eq_ok hfindings
  -- a section can be shown in one way only
  obtain rfl : snippets = misplaced := Except.ok.inj (hsnippets.symm.trans hmisplaced)
  rw [List.map_map, ← List.forall₂_eq_eq_eq, List.forall₂_map_left_iff, List.forall₂_map_right_iff]
  exact houtlines.flip.imp fun snippet found houtline => houtline.symm

/-- A listed section is reported if and only if one listed before it has its first heading on a later line, each once,
in the order of the list, and with the name of the lowest of these. All headings of unknown sections are reported at
once. So nothing is reported if and only if all headings are listed and the first ones are in the order of the list.
Headings after the first of a section make no difference to the order: in a document whose first headings are on the
same lines, the same is reported of them. -/
theorem sections_exact (rule : SectionOrderRule) (hsections : rule.sections.Nodup) (hnodes : context.HoldsNodes)
    (hlines : (SectionHeading.all context.body).Pairwise (·.line < ·.line)) :
    ∃ extra misplaced, rule.check context = .ok (extra ++ misplaced) ∧
      ReportsUnknown "body has extra section(s)" (MarksHeading context "unrecognized section")
        (rule.unlisted (SectionHeading.all context.body)) extra ∧
      List.Forall₂ (Reports context)
        ((withEarlier [] (rule.listed (SectionHeading.all context.body))).filter fun entry =>
          IsOvertaken SectionHeading.line entry.1 entry.2) misplaced ∧
      (rule.check context = .ok [] ↔ (∀ heading ∈ SectionHeading.all context.body, heading.name ∈ rule.sections) ∧
        (rule.listed (SectionHeading.all context.body)).Sublist (SectionHeading.all context.body)) ∧
      ∀ other : Context, other.HoldsNodes →
        (∀ name ∈ rule.sections, (SectionHeading.first? (SectionHeading.all other.body) name).map (·.line) =
          (SectionHeading.first? (SectionHeading.all context.body) name).map (·.line)) →
        ∃ extra' misplaced', rule.check other = .ok (extra' ++ misplaced') ∧
          ReportsUnknown "body has extra section(s)" (MarksHeading other "unrecognized section")
            (rule.unlisted (SectionHeading.all other.body)) extra' ∧
          misplaced'.map outline = misplaced.map outline := by
  -- what is unknown is reported in every document, before what is out of order
  have hreport : ∀ other : Context, other.HoldsNodes → ∃ extra misplaced,
      (outOfOrder (0, "") (rule.listed (SectionHeading.all other.body))).mapM (finding other) = .ok misplaced ∧
      rule.check other = .ok (extra ++ misplaced) ∧
      ReportsUnknown "body has extra section(s)" (MarksHeading other "unrecognized section")
        (rule.unlisted (SectionHeading.all other.body)) extra ∧
      List.Forall₂ (Reports other) ((withEarlier [] (rule.listed (SectionHeading.all other.body))).filter fun entry =>
        IsOvertaken SectionHeading.line entry.1 entry.2) misplaced := fun other hother =>
    exists_extra_misplaced "body has extra section(s)"
      (fun heading hheading => exists_excerpt hother (List.mem_filter.mp hheading).1 "unrecognized section")
      (rule.forall₂_finding hother)
  obtain ⟨extra, misplaced, hmisplaced, hcheck, hextra, hreports⟩ := hreport context hnodes
  refine ⟨extra, misplaced, hcheck, hextra, hreports, ?_, fun other hother hfirst => ?_⟩
  · have hnil : misplaced = [] ↔ (rule.listed (SectionHeading.all context.body)).Pairwise (·.line ≤ ·.line) := by
      rw [← filter_isOvertaken_eq_nil_iff, ← List.length_eq_zero_iff, ← hreports.length_eq, List.length_eq_zero_iff]
    rw [hcheck, Except.ok.injEq, List.append_eq_nil_iff, hextra.eq_nil_iff, hnil, pairwise_listed_iff hsections hlines,
      unlisted, List.filter_eq_nil_iff]
    simp
  · obtain ⟨extra', misplaced', hmisplaced', hcheck', hextra', -⟩ := hreport other hother
    refine ⟨extra', misplaced', hcheck', hextra', ?_⟩
    rw [map_outline_eq hother hmisplaced', map_outline_eq hnodes hmisplaced, outOfOrder_congr (listed_congr hfirst)]

/-- The second of two listed sections stands above the first, which comes again after it. -/
theorem sections_exact_swapped :
    let rule : SectionOrderRule := ⟨["a", "b"]⟩
    rule.sections.Nodup ∧ ∃ document, Document.ofString "---\nx: y\n---\n## b\n## é\n## a\n## b" none = .ok document ∧
      Context.HoldsNodes ⟨document, {}⟩ ∧
      (SectionHeading.all document.body).map (fun heading => (heading.name, heading.line)) =
        [("b", 4), ("é", 5), ("a", 6), ("b", 7)] ∧
      ∃ extra misplaced, rule.check ⟨document, {}⟩ = .ok (extra ++ misplaced) ∧
        List.Forall₂ (Reports ⟨document, {}⟩)
          ((withEarlier [] (rule.listed (SectionHeading.all document.body))).filter fun entry =>
            IsOvertaken SectionHeading.line entry.1 entry.2) misplaced := by
  intro rule
  have hsections : rule.sections.Nodup := by decide
  obtain ⟨document, hdocument, -, hfacts⟩ := Document.exists_of_map_ofString
    (f := fun document => (Context.holdsLines document,
      (SectionHeading.all document.body).map fun heading => (heading.name, heading.line)))
    (show (Document.ofString "---\nx: y\n---\n## b\n## é\n## a\n## b" none).map _ =
      .ok (true, [("b", 4), ("é", 5), ("a", 6), ("b", 7)]) by decide +kernel)
  obtain ⟨hholds, hheadings⟩ := Prod.mk.inj hfacts
  have hnodes : Context.HoldsNodes ⟨document, {}⟩ :=
    Context.holdsNodes_of_holdsLines (Document.hasTree_of_ofString hdocument) hholds
  -- headings come in the order of their lines
  have hpairwise : ((SectionHeading.all document.body).map fun heading => (heading.name, heading.line)).Pairwise
      (·.2 < ·.2) := hheadings ▸ by decide
  have hlines : (SectionHeading.all document.body).Pairwise (·.line < ·.line) := by
    rwa [List.pairwise_map] at hpairwise
  obtain ⟨extra, misplaced, hcheck, -, hreports, -, -⟩ :=
    rule.sections_exact hsections hnodes hlines
  exact ⟨hsections, document, hdocument, hnodes, hheadings, extra, misplaced, hcheck, hreports⟩

/-- A heading behind a carriage return alone has a line that the document does not have, and the rule fails. -/
theorem not_sections_exact_return :
    ¬∀ (rule : SectionOrderRule) (context : Context) (text : String), rule.sections.Nodup →
      Document.ofString text none = .ok context.document →
      (SectionHeading.all context.body).Pairwise (·.line < ·.line) →
      ∃ extra misplaced, rule.check context = .ok (extra ++ misplaced) ∧
        ReportsUnknown "body has extra section(s)" (MarksHeading context "unrecognized section")
          (rule.unlisted (SectionHeading.all context.body)) extra := by
  intro h
  obtain ⟨document, hdocument, -, hfacts⟩ := Document.exists_of_map_ofString
    (f := fun document => ((SectionHeading.all document.body).map (·.line),
      ((SectionOrderRule.mk []).check ⟨document, {}⟩).toBool))
    (show (Document.ofString "---\na: b\n---\n\r## x" none).map _ = .ok ([5], false) by decide +kernel)
  obtain ⟨hlines, hfails⟩ := Prod.mk.inj hfacts
  have hpairwise : (List.map (·.line) (SectionHeading.all document.body)).Pairwise (· < ·) := hlines ▸ by decide
  obtain ⟨extra, misplaced, hcheck, -⟩ := h (SectionOrderRule.mk []) ⟨document, {}⟩ _ (by decide) hdocument
    (List.pairwise_map.mp hpairwise)
  rw [hcheck] at hfails
  cases hfails

end SectionOrderRule

end ProposalCheck

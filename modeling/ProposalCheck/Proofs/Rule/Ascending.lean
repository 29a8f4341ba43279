import ProposalCheck.Proofs.Rule.Order
import ProposalCheck.Proofs.Text.Decimal

/-!
# Lists of numbers in ascending order

A list of numbers is in order if every item is how a number is written and is greater than all numbers before it.
Items that are no numbers do not count for the items after them, and neither do items out of order, since these are no
greater than what has been met.

## Main definitions

* `IsAscending`: an item is a number that is greater than all numbers before it
* `UintListRule.Flags`: what is said of an item that is not

## Main results

* `UintListRule.marksFrom_spec`: one pass marks the items that are not in order
* `UintListRule.ascending_exact`: which values are accepted, and which items of the others are marked
-/

namespace ProposalCheck

/-! ### Texts of numbers -/

section Numbers

variable {earlier : List String} {text : String} {n : Nat}

/-- The number whose text is `text`. -/
def writtenNumber? (text : String) : Option Nat :=
  if isCanonicalNumber text.toList then decimalNat? text.toList else none

theorem writtenNumber?_eq_some_iff : writtenNumber? text = some n ↔ text = toString n := by
  have hwritten : text = toString n ↔ text.toList = Nat.toDigits 10 n := by
    rw [← Nat.toList_repr, String.toList_inj]
    rfl
  rw [writtenNumber?, hwritten]
  split_ifs with hcanonical
  · obtain ⟨m, hm⟩ := isCanonicalNumber_iff.mp hcanonical
    rw [hm, decimalNat?_toDigits, Option.some.injEq]
    refine ⟨fun h => congrArg _ h, fun heq => ?_⟩
    have hread := congrArg decimalNat? heq
    rwa [decimalNat?_toDigits, decimalNat?_toDigits, Option.some.injEq] at hread
  · exact ⟨fun h => (nomatch h), fun h => absurd (isCanonicalNumber_iff.mpr ⟨n, h⟩) hcanonical⟩

theorem writtenNumber?_toString (n : Nat) : writtenNumber? (toString n) = some n := writtenNumber?_eq_some_iff.mpr rfl

/-- A text is a number, and the number is greater than all those before it. -/
def IsAscending (earlier : List String) (text : String) : Prop :=
  ∃ n : Nat, text = toString n ∧ ∀ m : Nat, toString m ∈ earlier → m < n

theorem isAscending_toString : IsAscending earlier (toString n) ↔ ∀ m : Nat, toString m ∈ earlier → m < n := by
  refine ⟨fun ⟨k, htext, hgreater⟩ => ?_, fun hgreater => ⟨n, rfl, hgreater⟩⟩
  have hnumber := writtenNumber?_toString k
  rw [← htext, writtenNumber?_toString] at hnumber
  rwa [Option.some.inj hnumber]

theorem isAscending_iff_all :
    ((writtenNumber? text).any fun n => (earlier.filterMap writtenNumber?).all (· < n)) ↔ IsAscending earlier text := by
  simp only [Option.any_eq_true, List.all_eq_true, decide_eq_true_eq, List.mem_filterMap, writtenNumber?_eq_some_iff,
    IsAscending]
  grind

instance : Decidable (IsAscending earlier text) := decidable_of_iff _ isAscending_iff_all

/-- Every item of a list is in order if and only if the items are numbers that get greater. -/
theorem forall_isAscending_iff {front items : List (String × Span)} :
    (∀ entry ∈ withEarlier front items, IsAscending (entry.1.map (·.1)) entry.2.1) ↔
      ∃ numbers : List Nat, items.map (·.1) = numbers.map toString ∧ numbers.Pairwise (· < ·) ∧
        ∀ m : Nat, toString m ∈ front.map (·.1) → ∀ n ∈ numbers, m < n := by
  induction items generalizing front with
  | nil => exact ⟨fun _ => ⟨[], rfl, .nil, fun _ _ _ hn => nomatch hn⟩, fun _ _ hentry => nomatch hentry⟩
  | cons item rest ih =>
    rw [withEarlier, List.forall_mem_cons, ih]
    -- an item that has been passed bounds all numbers behind it
    constructor
    · rintro ⟨⟨n, htext, hgreater⟩, numbers, htexts, hpairwise, hfront⟩
      have hitem : toString n ∈ (front ++ [item]).map (·.1) :=
        htext ▸ List.mem_map_of_mem (List.mem_append_right _ (List.mem_singleton_self item))
      refine ⟨n :: numbers, ?_, List.pairwise_cons.mpr ⟨fun m hm => hfront n hitem m hm, hpairwise⟩, fun m hm => ?_⟩
      · rw [List.map_cons, List.map_cons, htexts, ← htext]
      · refine List.forall_mem_cons.mpr ⟨hgreater m hm, hfront m ?_⟩
        rw [List.map_append]
        exact List.mem_append_left _ hm
    · rintro ⟨numbers, htexts, hpairwise, hfront⟩
      obtain ⟨n, numbers, rfl, htext, htexts⟩ := List.map_eq_cons_iff.mp htexts.symm
      obtain ⟨hfirst, hpairwise⟩ := List.pairwise_cons.mp hpairwise
      refine ⟨⟨n, htext.symm, fun m hm => hfront m hm n List.mem_cons_self⟩, numbers, htexts.symm, hpairwise, ?_⟩
      intro m hm k hk
      rw [List.map_append, List.mem_append] at hm
      rcases hm with hm | hm
      · exact hfront m hm k (List.mem_cons_of_mem _ hk)
      · have hsame : some m = some n := by
          rw [← writtenNumber?_toString m, List.mem_singleton.mp hm, ← htext, writtenNumber?_toString]
        rw [Option.some.inj hsame]
        exact hfirst k hk

end Numbers

namespace UintListRule

variable {context : Context} {field : Field} {front items : List (String × Span)}

/-- An item that is not in order is marked, and the label says whether it is a number at all. -/
inductive Flags : String × Span → Mark → Prop
  | noNumber {item : String × Span} (h : ∀ n : Nat, item.1 ≠ toString n) :
      Flags item { range := item.2, label := "not a non-negative integer" }
  | notGreater {item : String × Span} {n : Nat} (h : item.1 = toString n) :
      Flags item { range := item.2, label := "items must be unique and in ascending order" }

/-- The numbers among some items. -/
def numbers (items : List (String × Span)) : List Nat := items.filterMap fun item => writtenNumber? item.1

theorem toString_mem_iff {m : Nat} : toString m ∈ items.map (·.1) ↔ m ∈ numbers items := by
  simp [numbers, List.mem_filterMap, writtenNumber?_eq_some_iff]

theorem numbers_append (item : String × Span) :
    numbers (items ++ [item]) = numbers items ++ (writtenNumber? item.1).toList := by
  rw [numbers, numbers, List.filterMap_append, List.filterMap_cons]
  cases writtenNumber? item.1 <;> rfl

/-- What becomes of an item depends on whether it is a number. -/
theorem marksFrom_cons (previous : Option Nat) (item : String × Span) :
    marksFrom previous (item :: items) = match writtenNumber? item.1 with
      | none => { range := item.2, label := "not a non-negative integer" } :: marksFrom previous items
      | some n =>
        if previous.any (n ≤ ·) then
          { range := item.2, label := "items must be unique and in ascending order" } :: marksFrom previous items
        else marksFrom (some n) items := by
  rw [marksFrom, writtenNumber?]
  cases hcanonical : isCanonicalNumber item.1.toList with
  | false => rfl
  | true =>
    obtain ⟨n, hn⟩ := isCanonicalNumber_iff.mp hcanonical
    rw [hn, decimalNat?_toDigits]
    rfl

section kept

variable {previous : Option Nat} {item : String × Span} {n : Nat}

/-- A number is in order unless the number that is kept, the greatest so far, is not lower. -/
theorem isAscending_iff_of_isKept (h : IsKept id (numbers front) previous) (htext : item.1 = toString n) :
    IsAscending (front.map (·.1)) item.1 ↔ previous.any (n ≤ ·) = false := by
  simp only [htext, isAscending_toString, toString_mem_iff]
  cases previous with
  | none =>
    have hnil : numbers front = [] := h
    simp [hnil]
  | some top =>
    have htop : IsTop id (numbers front) top := h
    simp only [Option.any_some, decide_eq_false_iff_not, Nat.not_le]
    exact ⟨fun hless => hless top htop.mem, fun hlt m hm => Nat.lt_of_le_of_lt (htop.le m hm) hlt⟩

/-- What is no number does not change the number that is kept. -/
theorem isKept_append_none (h : IsKept id (numbers front) previous) (hnumber : writtenNumber? item.1 = none) :
    IsKept id (numbers (front ++ [item])) previous := by
  rwa [numbers_append, hnumber, Option.toList_none, List.append_nil]

/-- Of a number and the one that is kept, the greater one is kept. -/
theorem isKept_append_number (h : IsKept id (numbers front) previous) (htext : item.1 = toString n) :
    IsKept id (numbers (front ++ [item])) (if previous.any (n ≤ ·) then previous else some n) := by
  rw [numbers_append, writtenNumber?_eq_some_iff.mpr htext, Option.toList_some]
  cases previous with
  | none =>
    have hnil : numbers front = [] := h
    rw [hnil]
    exact ⟨List.mem_singleton_self n, by simp⟩
  | some top =>
    have htop : IsTop id (numbers front) top := h
    simp only [Option.any_some, decide_eq_true_eq]
    split_ifs with hle
    · exact htop.append_of_ge hle
    · exact htop.append_of_le (Nat.le_of_lt (Nat.lt_of_not_le hle))

end kept

/-- The number that is kept is the greatest of those that have been met, so a pass marks the items that are not in
order. -/
theorem marksFrom_spec {previous : Option Nat} (h : IsKept id (numbers front) previous) :
    List.Forall₂ (fun entry mark => Flags entry.2 mark)
      ((withEarlier front items).filter fun entry => ¬IsAscending (entry.1.map (·.1)) entry.2.1)
      (marksFrom previous items) := by
  induction items generalizing front previous with
  | nil => exact .nil
  | cons item rest ih =>
    rw [withEarlier, marksFrom_cons]
    cases hnumber : writtenNumber? item.1 with
    | none =>
      have htext : ∀ n : Nat, item.1 ≠ toString n := fun n htext => by
        rw [writtenNumber?_eq_some_iff.mpr htext] at hnumber
        cases hnumber
      -- what is no number is in no order
      have hnot : ¬IsAscending (front.map (·.1)) item.1 := by
        rintro ⟨n, hn, -⟩
        exact htext n hn
      rw [List.filter_cons_of_pos (by simpa using hnot)]
      exact .cons (.noNumber htext) (ih (isKept_append_none h hnumber))
    | some n =>
      have htext := writtenNumber?_eq_some_iff.mp hnumber
      have hascending := isAscending_iff_of_isKept h htext
      have hkept := isKept_append_number h htext
      dsimp only
      split_ifs at hkept ⊢ with hle
      · rw [List.filter_cons_of_pos (by simp [hascending, hle])]
        exact .cons (.notGreater htext) (ih hkept)
      · rw [List.filter_cons_of_neg (by simpa [hascending] using hle)]
        exact ih hkept

theorem Flags.range_eq {item : String × Span} {mark : Mark} (h : Flags item mark) : mark.range = item.2 := by
  cases h <;> rfl

/-- Nothing is marked if and only if the items are numbers that get greater. -/
theorem marksFrom_eq_nil_iff : marksFrom none items = [] ↔
    ∃ numbers : List Nat, items.map (·.1) = numbers.map toString ∧ numbers.Pairwise (· < ·) := by
  have hspec := @marksFrom_spec [] items none rfl
  have hall : marksFrom none items = [] ↔
      ∀ entry ∈ withEarlier [] items, IsAscending (entry.1.map (·.1)) entry.2.1 := by
    rw [← List.length_eq_zero_iff, ← hspec.length_eq, List.length_eq_zero_iff, List.filter_eq_nil_iff]
    simp
  rw [hall, forall_isAscending_iff]
  simp

/-- A value is accepted if and only if its parts between commas, without blanks around them, are how numbers are
written, and the numbers get greater. Otherwise there is one finding. It shows the line of the header and marks the
items that are no numbers or not greater than all numbers before them, and no others, each on exactly its bytes and in
the order of the value. -/
theorem ascending_exact (rule : UintListRule) {text : String} {origin : Option String}
    (hdocument : Document.ofString text origin = .ok context.document)
    (hfield : context.preamble.find? rule.name = some field) :
    ∃ items, Listing ',' (field.name ++ ":").toList field.value.toList items ∧
      items.map (·.1) = (splitAt "," field.value).map trim ∧
      (rule.check context = .ok [] ↔ ∃ numbers : List Nat, numbers ≠ [] ∧ numbers.Pairwise (· < ·) ∧
        (splitAt "," field.value).map trim = numbers.map toString) ∧
      (rule.check context ≠ .ok [] → ∃ source marks, context.lines.line field.line = .ok source ∧
        rule.check context = .ok
          [.about s!"preamble header `{rule.name}` must be a sorted list of non-negative integers"
            { origin := context.document.origin, lineStart := field.line, source, marks }] ∧
        List.Forall₂ (fun entry mark => Flags entry.2 mark ∧ mark.range.Covers source.toList entry.2.1.toList)
          ((withEarlier [] items).filter fun entry => ¬IsAscending (entry.1.map (·.1)) entry.2.1) marks) := by
  have hshows := Document.shows_of_mem hdocument (List.mem_of_find?_eq_some hfield)
  have hwithin : ∀ mark ∈ marksFrom none (field.items ","), mark.range.IsWithin field.source := fun mark hmark => by
    obtain ⟨item, hitem, hrange⟩ := List.mem_map.mp (range_mem_of_mem_marksFrom hmark)
    exact hrange ▸ hshows.item_isWithin hitem
  have hcheck : rule.check context = marksFinding context field
      s!"preamble header `{rule.name}` must be a sorted list of non-negative integers"
      (marksFrom none (field.items ",")) := by
    rw [check, hfield]
  rw [Context.marksFinding_eq hshows hwithin] at hcheck
  refine ⟨field.items ",", field.listing_items, Field.map_placeItems _ _ _, ?_, fun hfound => ?_⟩
  · have hsilent : rule.check context = .ok [] ↔ marksFrom none (field.items ",") = [] := by
      rw [hcheck, Except.ok.injEq]
      split_ifs with hmarks <;> simp [hmarks]
    -- a value has at least one item, if only an empty one
    have hitems : (field.items ",").map (·.1) ≠ [] := fun hnil =>
      field.listing_items.ne_nil (List.map_eq_nil_iff.mp hnil)
    rw [hsilent, marksFrom_eq_nil_iff, ← Field.map_placeItems]
    constructor
    · rintro ⟨numbers, htexts, hpairwise⟩
      exact ⟨numbers, fun hnil => hitems (by rw [htexts, hnil, List.map_nil]), hpairwise, htexts⟩
    · rintro ⟨numbers, -, hpairwise, htexts⟩
      exact ⟨numbers, htexts, hpairwise⟩
  · have hne : marksFrom none (field.items ",") ≠ [] := fun hnil => hfound (by rw [hcheck, if_pos hnil])
    rw [if_neg hne] at hcheck
    have hcovers : ∀ entry ∈ (withEarlier [] (field.items ",")).filter fun entry =>
        ¬IsAscending (entry.1.map (·.1)) entry.2.1, entry.2.2.Covers field.source.toList entry.2.1.toList :=
      fun entry hentry => hshows.items_covers entry.2 (mem_of_mem_withEarlier (List.mem_filter.mp hentry).1)
    refine ⟨field.source, _, hshows.source, hcheck, ?_⟩
    refine ((List.forall₂_and_left _ _).mpr ⟨hcovers, @marksFrom_spec [] _ none rfl⟩).imp fun entry mark hentry => ?_
    refine ⟨hentry.2, ?_⟩
    rw [hentry.2.range_eq]
    exact hentry.1

/-- Of five items the second is no number, and the fourth is less than the third. -/
theorem ascending_exact_mixed :
    let rule : UintListRule := ⟨"requires"⟩
    ∃ document field, Document.ofString "---\nrequires: 1, 02, 30,4 ,31\n---\n" none = .ok document ∧
      document.preamble.find? "requires" = some field ∧
      ∃ source marks, document.lines.line field.line = .ok source ∧
        rule.check ⟨document, {}⟩ = .ok
          [.about "preamble header `requires` must be a sorted list of non-negative integers"
            { lineStart := field.line, source, marks }] ∧
        marks.map (fun mark => (mark.range, mark.label)) =
          [(⟨13, 15⟩, "not a non-negative integer"), (⟨20, 21⟩, "items must be unique and in ascending order")] := by
  intro rule
  obtain ⟨document, hdocument, -, hfacts⟩ := Document.exists_of_map_ofString
    (f := fun document => ((document.preamble.find? "requires").isSome, (rule.check ⟨document, {}⟩).toOption.map fun
      found => (document.origin, found.flatMap (·.excerpts.flatMap fun excerpt =>
        excerpt.marks.map fun mark => (mark.range, mark.label)))))
    (show (Document.ofString "---\nrequires: 1, 02, 30,4 ,31\n---\n" none).map _ = .ok (true, some (none,
      [(⟨13, 15⟩, "not a non-negative integer"), (⟨20, 21⟩, "items must be unique and in ascending order")])) by
        decide +kernel)
  obtain ⟨hsome, hmarks⟩ := Prod.mk.inj hfacts
  obtain ⟨field, hfield⟩ := Option.isSome_iff_exists.mp hsome
  obtain ⟨items, -, -, -, hreports⟩ := @ascending_exact ⟨document, {}⟩ field rule _ _ hdocument hfield
  -- what is marked has been computed, so the rule is not silent
  obtain ⟨source, marks, hsource, hcheck, -⟩ := hreports fun hsilent => by
    rw [hsilent] at hmarks
    simp [Except.toOption] at hmarks
  rw [hcheck] at hmarks
  obtain ⟨horigin, hmarks⟩ := Prod.mk.inj (Option.some.inj hmarks)
  refine ⟨document, field, hdocument, hfield, source, marks, hsource, ?_, by simpa [Snippet.about] using hmarks⟩
  rw [hcheck]
  simp only [horigin]
  rfl

end UintListRule

end ProposalCheck

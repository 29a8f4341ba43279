import ProposalCheck.Proofs.Lint.Valid
import ProposalCheck.Rule.Mention

/-!
# Rules about headers give valid findings

These rules mark the value of a field, its name, items of a list, blanks, or what is found in the value. All of
that stands in the line of the field.

## Main results

* `UintListRule.range_mem_of_mem_marksFrom`: only items of a list are marked
* `Field.Shows.leading_covers`, `Field.Shows.trailing_covers`: where the blanks around a value stand
* `DateRule.gives_check` and the like: every rule gives valid findings
-/

namespace ProposalCheck

variable {context : Context}

/-! ### Values -/

theorem DateRule.gives_check (rule : DateRule) (h : context.IsPlaced) : GivesValid (rule.check context) := by
  refine .ofField fun field hfield => ?_
  split_ifs
  · exact .nil
  · exact h.valueFinding hfield _ _ _

theorem OneOfRule.gives_check (rule : OneOfRule) (h : context.IsPlaced) : GivesValid (rule.check context) := by
  refine .ofField fun field hfield => ?_
  split_ifs
  · exact .nil
  · exact h.valueFinding hfield _ _ _

theorem UintRule.gives_check (rule : UintRule) (h : context.IsPlaced) : GivesValid (rule.check context) := by
  refine .ofField fun field hfield => ?_
  split_ifs
  · exact .nil
  · exact h.valueFinding hfield _ _ _

theorem LengthRule.gives_check (rule : LengthRule) (h : context.IsPlaced) : GivesValid (rule.check context) := by
  refine .ofField fun field hfield => ?_
  extract_lets length problem
  cases problem with
  | none => exact .nil
  | some problem => exact h.valueFinding hfield _ _ _

theorem FileNameRule.gives_check (rule : FileNameRule) (h : context.IsPlaced) : GivesValid (rule.check context) := by
  rw [check]
  split
  · rename_i field _ hfield
    dsimp only
    split_ifs
    · exact .nil
    · exact h.valueFinding (List.mem_of_find?_eq_some hfield) _ _ _
  · exact .nil

/-! ### Lists -/

theorem UintListRule.range_mem_of_mem_marksFrom {mark : Mark} {previous : Option Nat} {items : List (String × Span)}
    (h : mark ∈ marksFrom previous items) : mark.range ∈ items.map (·.2) := by
  induction items generalizing previous with
  | nil => cases h
  | cons item items ih =>
    rw [marksFrom] at h
    dsimp only at h
    split_ifs at h with hnumber
    · rcases List.mem_cons.mp h with rfl | h
      · exact List.mem_cons_self
      · exact List.mem_cons_of_mem _ (ih h)
    · rcases List.mem_cons.mp h with rfl | h
      · exact List.mem_cons_self
      · exact List.mem_cons_of_mem _ (ih h)
    · exact List.mem_cons_of_mem _ (ih h)

theorem UintListRule.gives_check (rule : UintListRule) (h : context.IsPlaced) : GivesValid (rule.check context) := by
  refine .ofField fun field hfield => h.marksFinding hfield _ (fun mark hmark => ?_) _
  obtain ⟨item, hitem, heq⟩ := List.mem_map.mp (range_mem_of_mem_marksFrom hmark)
  exact heq ▸ (h.shows hfield).item_isWithin hitem

theorem ListRule.gives_check (rule : ListRule) (h : context.IsPlaced) : GivesValid (rule.check context) := by
  refine .ofField fun field hfield => ?_
  split_ifs
  · exact .nil
  · refine h.marksFinding hfield _ (fun mark hmark => ?_) _
    rcases List.mem_append.mp hmark with hmark | hmark
    · obtain ⟨item, hitem, rfl⟩ := List.mem_map.mp hmark
      exact (h.shows hfield).item_isWithin (List.mem_filter.mp hitem).1
    · split_ifs at hmark
      · rw [List.mem_singleton.mp hmark]
        exact (h.shows hfield).valueRange_isWithin
      · cases hmark

theorem AuthorRule.gives_check (rule : AuthorRule) (h : context.IsPlaced) : GivesValid (rule.check context) := by
  refine .ofField fun field hfield => ?_
  split_ifs
  · exact .nil
  · extract_lets entries marks
    have hmarks : ∀ mark ∈ marks, mark.range.IsWithin field.source := by
      intro mark hmark
      obtain ⟨entry, hentry, rfl⟩ := List.mem_map.mp hmark
      obtain ⟨item, hitem, rfl⟩ := List.mem_map.mp (List.mem_filter.mp hentry).1
      exact (h.shows hfield).item_isWithin (List.mem_filter.mp hitem).1
    refine (h.marksFinding hfield _ hmarks _).bind fun unrecognized hunrecognized => ?_
    split_ifs
    · exact .ok hunrecognized
    · refine (h.valueFinding hfield _ _ _).bind fun anonymous hanonymous => .ok fun snippet hsnippet => ?_
      rcases List.mem_append.mp hsnippet with hmem | hmem
      · exact hunrecognized snippet hmem
      · exact hanonymous snippet hmem

/-! ### Blanks around values -/

section Blanks

variable {field : Field} {lines : Lines} {line : Nat}

/-- The blanks before a value stand behind the colon. -/
theorem Field.Shows.leading_covers (h : field.Shows lines line) :
    Span.Covers ⟨field.valueOffset, field.valueOffset + (leadingBlanks field.value).utf8ByteSize⟩ field.source.toList
      (field.value.toList.takeWhile isBlank) := by
  refine ⟨(field.name ++ ":").toList, field.value.toList.dropWhile isBlank, ?_, ?_⟩
  · rw [List.takeWhile_append_dropWhile, h.source_eq]
  · rw [field.valueOffset_eq, leadingBlanks, ← byteLength_toList, String.toList_ofList]

/-- The blanks after a value stand at the end of the line. -/
theorem Field.Shows.trailing_covers (h : field.Shows lines line) :
    Span.Covers ⟨field.source.utf8ByteSize - (trailingBlanks field.value).utf8ByteSize, field.source.utf8ByteSize⟩
      field.source.toList (field.value.toList.reverse.takeWhile isBlank).reverse := by
  have hsource : field.source.toList = ((field.name ++ ":").toList ++ trimEndChars field.value.toList) ++
      (field.value.toList.reverse.takeWhile isBlank).reverse := by
    rw [List.append_assoc, ← eq_trimEndChars_append, h.source_eq]
  refine ⟨_, [], by rw [hsource, List.append_nil], ?_⟩
  rw [← byteLength_toList, hsource, byteLength_append, trailingBlanks, ← byteLength_toList, String.toList_ofList,
    Nat.add_sub_cancel]

theorem TrimRule.marks_isWithin (h : field.Shows lines line) :
    ∀ mark ∈ marks field, mark.range.IsWithin field.source := by
  intro mark hmark
  rcases List.mem_append.mp hmark with hmark | hmark
  · split_ifs at hmark
    · cases hmark
    · rw [List.mem_singleton.mp hmark]
      exact h.leading_covers.isWithin
  · split_ifs at hmark
    · cases hmark
    · rw [List.mem_singleton.mp hmark]
      exact h.trailing_covers.isWithin

end Blanks

theorem TrimRule.gives_check (rule : TrimRule) (h : context.IsPlaced) : GivesValid (rule.check context) :=
  .flatten fun _ hfield => h.marksFinding hfield _ (marks_isWithin (h.shows hfield)) _

/-! ### Names of headers -/

theorem RequiredRule.gives_check (rule : RequiredRule) (context : Context) : GivesValid (rule.check context) := by
  rw [check]
  split_ifs
  · exact .nil
  · exact .ok (List.forall_mem_singleton.mpr (Snippet.isValid_of_nil rfl))

theorem RequiredIfRule.gives_check (rule : RequiredIfRule) (h : context.IsPlaced) : GivesValid (rule.check context) := by
  rw [check]
  split
  · rename_i field htrigger hnone
    obtain ⟨hfield, -⟩ := Option.filter_eq_some_iff.mp htrigger
    exact h.valueFinding (List.mem_of_find?_eq_some hfield) _ _ _
  · rename_i field hnone hfield
    exact .about (h.nameExcerpt (List.mem_of_find?_eq_some hfield) _) _ _
  · exact .nil

theorem OrderRule.mem_of_mem_outOfOrder {names : List String} {highest : Option (Nat × String)} {fields : List Field}
    {entry : Field × String} (h : entry ∈ outOfOrder names highest fields) : entry.1 ∈ fields := by
  induction fields generalizing highest with
  | nil => cases h
  | cons field fields ih =>
    rw [outOfOrder.eq_def] at h
    dsimp only at h
    split at h
    · exact List.mem_cons_of_mem _ (ih h)
    · split_ifs at h
      · exact List.mem_cons_of_mem _ (ih h)
      · rcases List.mem_cons.mp h with rfl | h
        · exact List.mem_cons_self
        · exact List.mem_cons_of_mem _ (ih h)
    · exact List.mem_cons_of_mem _ (ih h)

theorem OrderRule.gives_check (rule : OrderRule) (h : context.IsPlaced) : GivesValid (rule.check context) := by
  apply GivesValid.extra
  · exact Gives.mapM fun field hfield => h.nameExcerpt (List.mem_filter.mp hfield).1 _
  · refine Gives.mapM fun entry hentry => (h.nameExcerpt (mem_of_mem_outOfOrder hentry) _).bind fun excerpt hexcerpt => ?_
    exact .ok (Snippet.isValid_about hexcerpt _ _)

theorem NoDuplicatesRule.mem_of_mem_repeated {seen : List String} {fields : List Field} {field : Field}
    (h : field ∈ repeated seen fields) : field ∈ fields := by
  induction fields generalizing seen with
  | nil => cases h
  | cons first fields ih =>
    rw [repeated] at h
    split_ifs at h
    · rcases List.mem_cons.mp h with rfl | h
      · exact List.mem_cons_self
      · exact List.mem_cons_of_mem _ (ih h)
    · exact List.mem_cons_of_mem _ (ih h)

theorem NoDuplicatesRule.gives_check (rule : NoDuplicatesRule) (h : context.IsPlaced) :
    GivesValid (rule.check context) := by
  refine Gives.mapM fun field hfield => (h.nameExcerpt (mem_of_mem_repeated hfield) _).bind fun excerpt hexcerpt => ?_
  exact .ok (Snippet.isValid_about hexcerpt _ _)

/-! ### Patterns and mentions in values -/

theorem ValuePatternRule.gives_check (rule : ValuePatternRule) (h : context.IsPlaced) :
    GivesValid (rule.check context) := by
  refine .ofField fun field hfield => h.marksFinding hfield _ (fun mark hmark => ?_) _
  cases hmode : rule.mode with
  | includes =>
    rw [hmode] at hmark
    dsimp only at hmark
    split_ifs at hmark
    · rw [List.mem_singleton.mp hmark]
      exact (h.shows hfield).valueRange_isWithin
    · cases hmark
  | excludes =>
    rw [hmode] at hmark
    obtain ⟨piece, -, rfl⟩ := List.mem_map.mp hmark
    exact (h.shows hfield).bytesOf_isWithin piece

theorem RequireReferencedRule.gives_check (rule : RequireReferencedRule) (h : context.IsPlaced) :
    GivesValid (rule.check context) := by
  refine .ofField fun field hfield => h.marksFinding hfield _ (fun mark hmark => ?_) _
  obtain ⟨mention, -, rfl⟩ := List.mem_map.mp hmark
  exact (h.shows hfield).bytesOf_isWithin _

end ProposalCheck

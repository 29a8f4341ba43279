import Mathlib.Data.List.Perm.Basic
import ProposalCheck.Proofs.Diagnostic.Locate
import ProposalCheck.Proofs.Document.Items

/-!
# Folded excerpts

An excerpt that is folded leaves out the lines between those on which something is marked. Nothing but the text of
such lines is lost: the marker rows stand below lines that are shown, and every mark has its row with its label, folded
or not. A row never ends with blanks, so the label is there without those at its end.

## Main definitions

* `Excerpt.IsRemoved`: a line is left out when an excerpt is folded
* `Drawing.Draws`: every mark has one row of its kind, with its label

## Main results

* `Drawing.markerStrips_of_isRemoved`: a line that is left out has no marker rows
* `Drawing.draws_ofExcerpt`: every mark is drawn, folded or not
* `Drawing.folding_keeps_marks`: what is left of an excerpt that is folded
-/

namespace ProposalCheck

/-! ### Groups by a key -/

theorem flatMap_ite_singleton {α : Type} (item : α) {key n : Nat} (h : key < n) :
    ((List.range n).flatMap fun i => if key = i then [item] else []) = [item] := by
  induction n with
  | zero => omega
  | succ n ih =>
    rw [List.range_succ, List.flatMap_append, List.flatMap_singleton]
    rcases Nat.lt_succ_iff_lt_or_eq.mp h with hlt | rfl
    · rw [ih hlt, if_neg (by omega), List.append_nil]
    · rw [if_pos rfl, List.flatMap_eq_nil_iff.mpr, List.nil_append]
      intro i hi
      rw [if_neg (by have := List.mem_range.mp hi; omega)]

/-- Items that are grouped by a number are the items in another order. -/
theorem flatMap_filter_perm {α : Type} (key : α → Nat) {n : Nat} {items : List α} (h : ∀ item ∈ items, key item < n) :
    ((List.range n).flatMap fun i => items.filter (key · = i)).Perm items := by
  induction items with
  | nil => simp
  | cons item items ih =>
    obtain ⟨hitem, hitems⟩ := List.forall_mem_cons.mp h
    -- in its group the first item comes first, so it can be taken out of all groups
    have hsplit : ∀ i, (item :: items).filter (key · = i) =
        (if key item = i then [item] else []) ++ items.filter (key · = i) := by
      intro i
      rw [List.filter_cons]
      split_ifs <;> simp_all
    simp only [hsplit]
    refine (List.flatMap_append_perm _ _ _).symm.trans ?_
    rw [flatMap_ite_singleton item hitem]
    exact (ih hitems).cons item

/-! ### Lines that are left out -/

/-- A line is left out when an excerpt is folded: it is neither the first line nor the last, and no mark starts or
ends on it. -/
def Excerpt.IsRemoved (excerpt : Excerpt) (line : Nat) : Prop :=
  line ≠ 0 ∧ line ≠ excerpt.source.toList.count '\n' ∧
    ∀ mark ∈ excerpt.marks, line ≠ mark.firstLine excerpt.source ∧ line ≠ mark.lastLine excerpt.source

instance (excerpt : Excerpt) (line : Nat) : Decidable (excerpt.IsRemoved line) :=
  inferInstanceAs (Decidable (_ ∧ _ ∧ _))

namespace Drawing

variable {excerpt : Excerpt} {width line : Nat} {default : Severity}

theorem isKept_iff : (ofExcerpt excerpt width default).isKept line ↔ ¬excerpt.IsRemoved line := by
  have hmarks : (ofExcerpt excerpt width default).marks.any
      (fun mark => line = mark.startLine || line = mark.endLine) ↔
      ∃ mark ∈ excerpt.marks, line = mark.firstLine excerpt.source ∨ line = mark.lastLine excerpt.source := by
    rw [marks_perm.any_eq, List.any_map]
    simp [List.any_eq_true, PlacedMark.startLine_place, PlacedMark.endLine_place]
  rw [isKept, Bool.or_eq_true, Bool.or_eq_true, hmarks, length_rows, Excerpt.IsRemoved]
  simp only [decide_eq_true_eq, not_and_or, not_forall, ne_eq, not_not, exists_prop, or_assoc, Nat.add_right_cancel_iff]

theorem isShown_iff : (ofExcerpt excerpt width default).isShown line ↔ (excerpt.fold → ¬excerpt.IsRemoved line) := by
  rw [isShown, Bool.or_eq_true, isKept_iff, show (ofExcerpt excerpt width default).excerpt = excerpt from rfl]
  cases excerpt.fold <;> simp

/-- A line that is left out has no marker rows. -/
theorem markerStrips_of_isRemoved (h : excerpt.IsRemoved line) :
    (ofExcerpt excerpt width default).markerStrips line = [] := by
  have hfree : ∀ placed ∈ (ofExcerpt excerpt width default).marks, placed.startLine ≠ line ∧ placed.endLine ≠ line := by
    intro placed hplaced
    obtain ⟨mark, hmark, rfl⟩ := exists_of_mem_marks hplaced
    rw [PlacedMark.startLine_place, PlacedMark.endLine_place]
    exact ⟨(h.2.2 mark hmark).1.symm, (h.2.2 mark hmark).2.symm⟩
  have hgutter : ∀ place ∈ (ofExcerpt excerpt width default).gutterMarks.zipIdx,
      place.1.startLine ≠ line ∧ place.1.endLine ≠ line := fun place hplace =>
    hfree _ (List.mem_filter.mp ((List.mem_zipIdx_iff_getElem?.mp hplace) |> List.mem_of_getElem?)).1
  rw [markerStrips, List.filter_eq_nil_iff.mpr, List.filter_eq_nil_iff.mpr, List.filter_eq_nil_iff.mpr]
  · rfl
  · exact fun place hplace => by simp [(hgutter place hplace).2]
  · exact fun place hplace => by simp [(hgutter place hplace).1]
  · exact fun mark hmark => by simp [(hfree mark hmark).1]

/-! ### Marks that are drawn -/

/-- The mark that a strip draws while it stays on its line. -/
def Strip.single? : Strip → Option PlacedMark
  | .inline _ mark => some mark
  | _ => none

/-- The mark of the gutter that a strip ends. -/
def Strip.closed? : Strip → Option PlacedMark
  | .closing _ _ mark => some mark
  | _ => none

/-- The rows of a drawing draw the marks on a text: a mark that stays on its line has one row there, and any other mark
one closing row. It ends with the label of the mark, without the blanks at its end. -/
structure Draws (drawing : Drawing) (source : String) (marks : List Mark) (default : Severity) : Prop where
  single : (drawing.strips.filterMap Strip.single?).Perm
    ((marks.filter fun mark => mark.lastLine source = mark.firstLine source).map
      (PlacedMark.place (Row.ofChars 0 source.toList) default))
  closed : (drawing.strips.filterMap Strip.closed?).Perm
    ((marks.filter fun mark => mark.lastLine source ≠ mark.firstLine source).map
      (PlacedMark.place (Row.ofChars 0 source.toList) default))
  label : ∀ mark ∈ marks, ∀ strip ∈ drawing.strips,
    (strip.single? <|> strip.closed?) = some (PlacedMark.place (Row.ofChars 0 source.toList) default mark) →
    trimEndChars mark.label.toList <:+ (drawing.text strip).toList

/-- What is picked of marker rows does not depend on the lines that are left out. -/
theorem filterMap_strips {β : Type} {f : Strip → Option β} (hgap : f .gap = none)
    (hsource : ∀ line, f (.source line) = none) : (ofExcerpt excerpt width default).strips.filterMap f =
      (List.range (ofExcerpt excerpt width default).rows.length).flatMap fun line =>
        ((ofExcerpt excerpt width default).markerStrips line).filterMap f := by
  rw [strips, filterMap_elide hgap, List.flatMap_map]
  congr 1
  funext line
  split_ifs with hshown
  · rw [Option.getD_some, lineStrips, List.filterMap_cons_none (hsource line)]
  · -- nothing is lost with this line, for it has no marker rows
    have hremoved : excerpt.IsRemoved line := by
      by_contra hkept
      exact hshown (isShown_iff.mpr fun _ => hkept)
    rw [markerStrips_of_isRemoved hremoved]
    rfl

theorem filterMap_single?_markerStrips (drawing : Drawing) (line : Nat) :
    (drawing.markerStrips line).filterMap Strip.single? =
      (drawing.marks.filter (!·.isMultiline)).filter (·.startLine = line) := by
  simp [markerStrips, List.filterMap_map, Function.comp_def, Strip.single?, List.filter_filter, Bool.and_comm]

theorem filterMap_closed?_markerStrips (drawing : Drawing) (line : Nat) :
    (drawing.markerStrips line).filterMap Strip.closed? = drawing.gutterMarks.filter (·.endLine = line) := by
  have hfst : drawing.gutterMarks = drawing.gutterMarks.zipIdx.map Prod.fst := (List.zipIdx_map_fst 0 _).symm
  conv_rhs => rw [hfst, List.filter_map]
  simp [markerStrips, List.filterMap_map, Function.comp_def, Strip.closed?]

/-- The marks of a kind are those of the excerpt. -/
theorem filter_marks_perm (p : PlacedMark → Bool) : ((ofExcerpt excerpt width default).marks.filter p).Perm
    ((excerpt.marks.filter fun mark => p (PlacedMark.place (Row.ofChars 0 excerpt.source.toList) default mark)).map
      (PlacedMark.place (Row.ofChars 0 excerpt.source.toList) default)) := by
  refine (marks_perm.filter p).trans ?_
  rw [List.filter_map]
  rfl

/-- The label of a mark is behind its strokes. -/
theorem label_suffix_tail {rows : List Row} (mark : Mark) :
    mark.label.toList <:+ (PlacedMark.place rows default mark).tail := by
  have hlabel : ∀ severity, mark.label.toList <:+ (PlacedMark.labelText severity mark.label).toList := by
    intro severity
    rw [PlacedMark.labelText]
    split_ifs
    · rw [String.toList_append]
      exact List.suffix_append _ _
    · exact List.suffix_rfl
  rw [PlacedMark.tail]
  split_ifs with hempty
  · have := hlabel (mark.severity.getD default)
    rw [show PlacedMark.labelText _ mark.label = "" from hempty] at this
    exact this
  · exact (hlabel _).trans (List.suffix_cons _ _)

theorem unnumbered_suffix (drawing : Drawing) (lead : List Char) {label tail : List Char} (h : label <:+ tail) :
    trimEndChars label <:+ (drawing.unnumbered (lead ++ tail)).toList := by
  obtain ⟨front, rfl⟩ := h
  rw [unnumbered, String.toList_ofList]
  have hsplit : drawing.padding ++ ' ' :: '|' :: ' ' :: (lead ++ (front ++ label)) =
      (drawing.padding ++ ' ' :: '|' :: ' ' :: (lead ++ front)) ++ label := by simp
  rw [hsplit]
  exact trimEndChars_suffix _ _

theorem draws_ofExcerpt (excerpt : Excerpt) (width : Nat) (default : Severity) :
    (ofExcerpt excerpt width default).Draws excerpt.source excerpt.marks default where
  single := by
    -- the rows are grouped by the line on which their marks start
    have hout := isLaidOut_ofExcerpt excerpt width default
    rw [filterMap_strips rfl fun _ => rfl]
    simp only [filterMap_single?_markerStrips]
    refine (flatMap_filter_perm PlacedMark.startLine fun mark hmark => ?_).trans ?_
    · exact hout.startLine_lt (List.mem_filter.mp hmark).1
    · simpa [PlacedMark.isMultiline_place] using filter_marks_perm (!·.isMultiline)
  closed := by
    -- these are grouped by the line on which their marks end
    rw [filterMap_strips rfl fun _ => rfl]
    simp only [filterMap_closed?_markerStrips]
    refine (flatMap_filter_perm PlacedMark.endLine fun mark hmark => ?_).trans ?_
    · exact (isLaidOut_ofExcerpt excerpt width default).endLine_lt mark (List.mem_filter.mp hmark).1
    · rw [gutterMarks]
      simpa [PlacedMark.isMultiline_place] using filter_marks_perm (·.isMultiline)
  label mark _ strip _ hdraws := by
    cases strip with
    | gap | source | opening => cases hdraws
    | inline line placed =>
      obtain rfl := Option.some.inj hdraws
      exact unnumbered_suffix _ _ (label_suffix_tail mark)
    | closing line k placed =>
      obtain rfl := Option.some.inj hdraws
      rw [text, closingRow, ← List.singleton_append, ← List.append_assoc]
      exact unnumbered_suffix _ _ (label_suffix_tail mark)

/-! ### Folding -/

/-- What is above the lines of an excerpt. -/
def headRows (drawing : Drawing) (isFirst : Bool) : List String :=
  (match drawing.excerpt.origin with
    | some origin => [drawing.placeRow isFirst origin]
    | none => []) ++ [blankRow drawing.width]

/-- A folded excerpt has the rows of the excerpt as it is, without the groups of the lines that are left out and with
one row `...` for each run of them. These groups have no marker rows, so every mark is drawn, folded or not, with its
label except for the blanks at its end. -/
theorem folding_keeps_marks (excerpt : Excerpt) (width : Nat) (default : Severity) (isFirst : Bool) :
    let drawing := fun fold => ofExcerpt { excerpt with fold } width default
    let lines := List.range (excerpt.source.toList.count '\n' + 1)
    (∃ head, (drawing false).allRows isFirst = head ++ lines.flatMap (drawing false).rowGroup ∧
      (drawing true).allRows isFirst = head ++ elide "..." (lines.map fun line =>
        if excerpt.IsRemoved line then none else some ((drawing false).rowGroup line))) ∧
    (∀ line, excerpt.IsRemoved line → (drawing false).rowGroup line = [(drawing false).sourceRow line]) ∧
    ∀ fold, (drawing fold).lineRows = (drawing fold).strips.map (drawing fold).text ∧
      (drawing fold).Draws excerpt.source excerpt.marks default := by
  intro drawing lines
  have hall : ∀ fold, (drawing fold).allRows isFirst = (drawing fold).headRows isFirst ++ (drawing fold).lineRows :=
    fun fold => by rw [allRows, headRows, List.append_assoc]; rfl
  -- without folding every line is shown, and with it every line that is not removed
  have hshown : ∀ fold line, (drawing fold).isShown line ↔ (fold → ¬excerpt.IsRemoved line) := fun fold line =>
    isShown_iff
  have hgroups : ∀ fold, (drawing fold).lineRows = elide "..." (lines.map fun line =>
      if (drawing fold).isShown line then some ((drawing false).rowGroup line) else none) := fun fold => by
    rw [lineRows_eq_elide _ rows_pos, length_rows]
    rfl
  refine ⟨⟨(drawing false).headRows isFirst, ?_, ?_⟩, fun line hremoved => ?_, fun fold =>
    ⟨lineRows_eq _ rows_pos, draws_ofExcerpt _ _ _⟩⟩
  · rw [hall, hgroups, ← @elide_map_some _ _ "..."]
    simp [hshown]
  · rw [hall, hgroups]
    refine congrArg ((drawing false).headRows isFirst ++ elide "..." ·) (List.map_congr_left fun line _ => ?_)
    by_cases hremoved : excerpt.IsRemoved line
    · rw [if_pos hremoved, if_neg (by simp [hshown, hremoved])]
    · rw [if_neg hremoved, if_pos (by simp [hshown, hremoved])]
  · have hmarkers : (drawing false).markerStrips line = [] := markerStrips_of_isRemoved hremoved
    rw [← map_text_lineStrips, lineStrips, hmarkers]
    rfl

/-- A label that ends with a blank is on no row as it is. -/
theorem folding_drops_blanks :
    let excerpt : Excerpt := { lineStart := 1, source := "a", marks := [⟨⟨0, 1⟩, "x ", none⟩] }
    (∀ mark ∈ excerpt.marks, mark.range.IsWithin excerpt.source) ∧
      ∀ fold, (ofExcerpt { excerpt with fold } 1 .error).lineRows = ["1 | a", "  | ^ x"] ∧
        ∀ row ∈ ["1 | a", "  | ^ x"], ¬"x ".toList <:+: row.toList := by
  refine ⟨List.forall_mem_singleton.mpr ?_, by decide +kernel⟩
  exact Span.isWithin_of_isBoundary (Nat.zero_le _) (isBoundary_zero _) (isBoundary_byteLength _)

end Drawing

end ProposalCheck

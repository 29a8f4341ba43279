import Mathlib.Data.List.Basic
import ProposalCheck.Markdown.Block

/-!
# Rows and their text

The text of a Markdown document has no carriage returns once its line ends are unified. It falls into rows,
and within a row, however much of its front belongs to the containers around it, no line ends. So the text
of some rows has no more lines than there are rows.

## Main definitions

* `BlockScope.IsSound`: no line ends within the rows of a scope
* `lineCount`: the number of lines of a text

## Main results

* `BlockScope.isSound_ofText`: the rows of a text
* `BlockScope.lineCount_content_le`: the text of some rows has no more lines than rows
* `BlockScope.count_paragraphText_lt`: the text of a paragraph has fewer line ends than rows
-/

namespace ProposalCheck.Markdown

/-! ### Line ends -/

theorem trimChars_sublist (cs : List Char) : (trimChars cs).Sublist cs := by
  have hend : (trimEndChars (trimStartChars cs)).Sublist (trimStartChars cs) := by
    simpa [trimEndChars] using (List.dropWhile_sublist isBlank (l := (trimStartChars cs).reverse)).reverse
  exact hend.trans (List.dropWhile_sublist isBlank)

theorem return_not_mem_unifyLineEnds (cs : List Char) : '\r' ∉ unifyLineEnds cs := by
  fun_induction unifyLineEnds cs with
  | case1 => simp
  | case2 rest ih => simpa using ih
  | case3 rest _ ih => simpa using ih
  | case4 c rest _ hreturn ih =>
    simp only [List.mem_cons, not_or]
    refine ⟨?_, ih⟩
    split_ifs
    · decide
    · exact fun h => hreturn h.symm

/-- Without carriage returns the line ends are the line feeds. -/
theorem count_unifyLineEnds {cs : List Char} (h : '\r' ∉ cs) :
    (unifyLineEnds cs).count '\n' = cs.count '\n' := by
  fun_induction unifyLineEnds cs with
  | case1 => rfl
  | case2 rest ih => simp at h
  | case3 rest _ ih => simp at h
  | case4 c rest _ hreturn ih =>
    simp only [List.mem_cons, not_or] at h
    rw [List.count_cons, List.count_cons, ih h.2]
    congr 1
    split_ifs <;> simp_all

/-! ### Scans -/

section scans

variable {p : Char → Bool} {text : Array Char}

theorem le_skipWhile (place fuel : Nat) : place ≤ skipWhile p text place fuel := by
  induction fuel generalizing place with
  | zero => exact Nat.le_refl _
  | succ fuel ih =>
    rw [skipWhile]
    split
    · split_ifs
      · exact Nat.le_trans (Nat.le_succ _) (ih _)
      · exact Nat.le_refl _
    · exact Nat.le_refl _

/-- What is passed meets the condition. -/
theorem exists_of_lt_skipWhile {place fuel j : Nat} (hj : place ≤ j)
    (h : j < skipWhile p text place fuel) : ∃ c, text[j]? = some c ∧ p c := by
  induction fuel generalizing place with
  | zero =>
    rw [skipWhile] at h
    omega
  | succ fuel ih =>
    rw [skipWhile] at h
    split at h
    · rename_i c hc
      split_ifs at h with hp
      · rcases Nat.eq_or_lt_of_le hj with rfl | hlt
        · exact ⟨c, hc, hp⟩
        · exact ih hlt h
      · omega
    · omega

/-- What stops a scan before the end of the text does not meet the condition. -/
theorem exists_of_skipWhile_lt {place fuel : Nat} (hfuel : text.size ≤ place + fuel)
    (h : skipWhile p text place fuel < text.size) :
    ∃ c, text[skipWhile p text place fuel]? = some c ∧ p c = false := by
  induction fuel generalizing place with
  | zero =>
    rw [skipWhile] at h
    omega
  | succ fuel ih =>
    rw [skipWhile] at h ⊢
    split at h
    · rename_i c hc
      split_ifs at h with hp
      · simp only [hp, if_true]
        exact ih (by omega) h
      · simp only [hp]
        exact ⟨c, by simpa using hc, by simpa using hp⟩
    · rename_i hnone
      rw [Array.getElem?_eq_none_iff] at hnone
      omega

theorem mem_sliceOf {start stop : Nat} {c : Char} (h : c ∈ sliceOf text start stop) :
    ∃ j, start ≤ j ∧ j < stop ∧ text[j]? = some c := by
  obtain ⟨i, hi, rfl⟩ := List.getElem_of_mem h
  simp only [sliceOf, Array.toList_extract, List.extract_eq_take_drop, List.length_take,
    List.length_drop, Array.length_toList] at hi
  refine ⟨start + i, by omega, by omega, ?_⟩
  rw [Array.getElem?_eq_getElem (by omega)]
  simp [sliceOf]

theorem length_sliceOf (start stop : Nat) :
    (sliceOf text start stop).length = min stop text.size - start := by
  simp only [sliceOf, Array.length_toList, Array.size_extract]

/-- A slice falls in two at any place before its end. -/
theorem sliceOf_append {start middle stop : Nat} (h : middle ≤ stop) :
    sliceOf text start stop = sliceOf text start middle ++ sliceOf text (max start middle) stop := by
  simp only [sliceOf, Array.toList_extract, List.extract_eq_take_drop]
  rcases Nat.le_total start middle with hle | hle
  · rw [Nat.max_eq_right hle, show stop - start = (middle - start) + (stop - middle) by omega,
      List.take_add, List.drop_drop, Nat.add_sub_cancel' hle]
  · rw [Nat.max_eq_left hle, Nat.sub_eq_zero_of_le hle, List.take_zero, List.nil_append]

theorem sliceOf_cons {start stop : Nat} {c : Char} (h : text[start]? = some c) (hlt : start < stop) :
    sliceOf text start stop = c :: sliceOf text (start + 1) stop := by
  obtain ⟨hsize, rfl⟩ := Array.getElem?_eq_some_iff.mp h
  simp only [sliceOf, Array.toList_extract, List.extract_eq_take_drop]
  rw [List.drop_eq_getElem_cons (by simpa using hsize), show stop - start = stop - (start + 1) + 1 by omega,
    List.take_succ_cons, Array.getElem_toList]

end scans

/-! ### Lines of a text -/

section lineCounts

variable {cs ds : List Char}

/-- The number of lines of a text. What follows the last line feed is a line unless it is empty. -/
def lineCount (cs : List Char) : Nat := cs.count '\n' + if cs.getLast?.any (· ≠ '\n') then 1 else 0

@[simp] theorem lineCount_nil : lineCount [] = 0 := rfl

theorem lineCount_append_le (cs ds : List Char) : lineCount (cs ++ ds) ≤ lineCount cs + lineCount ds := by
  rcases List.eq_nil_or_concat ds with rfl | ⟨front, last, rfl⟩
  · simp
  · have hlast : (cs ++ front.concat last).getLast? = (front.concat last).getLast? :=
      List.getLast?_append_of_ne_nil _ (by simp)
    rw [lineCount, lineCount, lineCount, List.count_append, hlast]
    omega

/-- A character that is no line feed stands on one of the lines. -/
theorem count_take_lt_lineCount {k : Nat} {c : Char} (hk : cs[k]? = some c) (hc : c ≠ '\n') :
    (cs.take k).count '\n' < lineCount cs := by
  obtain ⟨hlt, rfl⟩ := List.getElem?_eq_some_iff.mp hk
  have hsplit : cs = cs.take k ++ cs.drop k := (List.take_append_drop k cs).symm
  have hcount := congrArg (List.count '\n') hsplit
  rw [List.count_append] at hcount
  rcases Nat.eq_zero_or_pos ((cs.drop k).count '\n') with hnone | hsome
  · -- the last line is not empty
    have hne : cs.drop k ≠ [] := by simpa using hlt
    have hlast : cs.getLast? = (cs.drop k).getLast? := by
      conv_lhs => rw [hsplit]
      exact List.getLast?_append_of_ne_nil _ hne
    obtain ⟨last, hlastEq⟩ : ∃ last, (cs.drop k).getLast? = some last :=
      ⟨_, List.getLast?_eq_some_getLast hne⟩
    have hdark : last ≠ '\n' := by
      rintro rfl
      exact List.count_eq_zero.mp hnone (List.mem_of_getLast? hlastEq)
    rw [lineCount, hlast, hlastEq]
    simp only [Option.any_some, hdark, ne_eq, not_false_iff, decide_true, if_true]
    omega
  · rw [lineCount]
    omega

/-- A text with at most one line feed, which stands at its end. -/
def IsLine (cs : List Char) : Prop := ∃ free, '\n' ∉ free ∧ (cs = free ∨ cs = free ++ ['\n'])

theorem IsLine.count_le (h : IsLine cs) : cs.count '\n' ≤ 1 := by
  obtain ⟨free, hfree, rfl | rfl⟩ := h
  · simp [List.count_eq_zero.mpr hfree]
  · simp [List.count_eq_zero.mpr hfree]

theorem IsLine.lineCount_le (h : IsLine cs) : lineCount cs ≤ 1 := by
  obtain ⟨free, hfree, rfl | rfl⟩ := h
  · rw [lineCount, List.count_eq_zero.mpr hfree]
    split_ifs <;> omega
  · simp [lineCount, List.count_eq_zero.mpr hfree]

theorem lineCount_le_of_ne_nil (cs : List Char) : lineCount cs ≤ cs.count '\n' + 1 := by
  rw [lineCount]
  split_ifs <;> omega

theorem lineCount_le_cons (c : Char) (cs : List Char) : lineCount cs ≤ lineCount (c :: cs) := by
  rw [lineCount, lineCount, List.getLast?_cons]
  have hcount : cs.count '\n' ≤ (c :: cs).count '\n' := List.count_le_count_cons
  cases cs.getLast? with
  | none => exact Nat.le_trans hcount (Nat.le_add_right _ _)
  | some last => exact Nat.add_le_add_right hcount _

theorem lineCount_flatMap_le {rows : List Nat} {f : Nat → List Char} (h : ∀ i ∈ rows, IsLine (f i)) :
    lineCount (rows.flatMap f) ≤ rows.length := by
  induction rows with
  | nil => exact Nat.le_refl _
  | cons i rows ih =>
    rw [List.flatMap_cons, List.length_cons]
    have := lineCount_append_le (f i) (rows.flatMap f)
    have := (h i List.mem_cons_self).lineCount_le
    have := ih fun j hj => h j (List.mem_cons_of_mem i hj)
    omega

theorem count_flatMap_le {rows : List Nat} {f : Nat → List Char} (h : ∀ i ∈ rows, IsLine (f i)) :
    (rows.flatMap f).count '\n' ≤ rows.length := by
  induction rows with
  | nil => exact Nat.le_refl _
  | cons i rows ih =>
    rw [List.flatMap_cons, List.length_cons, List.count_append]
    have := (h i List.mem_cons_self).count_le
    have := ih fun j hj => h j (List.mem_cons_of_mem i hj)
    omega

theorem lineCount_append_feed (cs ds : List Char) :
    lineCount (cs ++ '\n' :: ds) = cs.count '\n' + 1 + lineCount ds := by
  have hlast : (cs ++ '\n' :: ds).getLast?.any (· ≠ '\n') = ds.getLast?.any (· ≠ '\n') := by
    rw [List.getLast?_append_of_ne_nil _ (List.cons_ne_nil _ _), List.getLast?_cons]
    cases ds.getLast? with
    | none => simp
    | some c => simp
  rw [lineCount, lineCount, hlast, List.count_append, List.count_cons_self]
  omega

theorem isLine_of_length_le (h : cs.length ≤ 1) : IsLine cs := by
  match cs with
  | [] => exact ⟨[], List.not_mem_nil, .inl rfl⟩
  | [c] =>
    by_cases hc : c = '\n'
    · exact ⟨[], List.not_mem_nil, .inr (by rw [hc]; rfl)⟩
    · exact ⟨[c], by simpa using Ne.symm hc, .inl rfl⟩

theorem isLine_append {front : List Char} (hfront : '\n' ∉ front) (h : IsLine cs) : IsLine (front ++ cs) := by
  obtain ⟨free, hfree, rfl | rfl⟩ := h
  · exact ⟨front ++ cs, by simp [hfront, hfree], .inl rfl⟩
  · exact ⟨front ++ free, by simp [hfront, hfree], .inr (by rw [List.append_assoc])⟩

end lineCounts

/-! ### Rows -/

/-- Does no line end within a row? -/
def BlockRow.IsFree (text : Array Char) (row : BlockRow) : Prop :=
  ∀ j, row.first ≤ j → j < row.last → text[j]? ≠ some '\n'

namespace BlockScope

variable {scope : BlockScope} {count : Nat}

/-- No line ends within the rows of a scope, which has not more than some number of rows, and there are no
carriage returns in its text. -/
structure IsSound (count : Nat) (scope : BlockScope) : Prop where
  stop_le : scope.stop ≤ count
  no_return : '\r' ∉ scope.text.toList
  rows : ∀ line, (scope.row line).IsFree scope.text

theorem return_not_mem_sliceOf (h : scope.IsSound count) (start stop : Nat) :
    '\r' ∉ sliceOf scope.text start stop := by
  intro hmem
  obtain ⟨j, -, -, hj⟩ := mem_sliceOf hmem
  exact h.no_return (by simpa using Array.mem_of_getElem? hj)

/-- The text between two places of a row has no line feed. -/
theorem newline_not_mem_sliceOf (h : scope.IsSound count) {line start stop : Nat}
    (hstart : (scope.row line).first ≤ start) (hstop : stop ≤ (scope.row line).last) :
    '\n' ∉ sliceOf scope.text start stop := by
  intro hmem
  obtain ⟨j, hj, hjlt, hget⟩ := mem_sliceOf hmem
  exact h.rows line j (by omega) (by omega) hget

theorem newline_not_mem_lineText (h : scope.IsSound count) (line : Nat) : '\n' ∉ scope.lineText line :=
  newline_not_mem_sliceOf h (Nat.le_add_right _ _) (Nat.le_refl _)

/-- A scope with another row in place of one is sound if no line ends within that row. -/
theorem IsSound.withRow (h : scope.IsSound count) (line : Nat) {row : BlockRow}
    (hrow : row.IsFree scope.text) : (scope.withRow line row).IsSound count where
  stop_le := h.stop_le
  no_return := h.no_return
  rows other := by
    have hother := h.rows other
    rw [BlockScope.row, Array.getD_eq_getD_getElem?] at hother ⊢
    rw [BlockScope.withRow, Array.getElem?_setIfInBounds]
    split_ifs with heq hlt
    · exact hrow
    · intro j hj hjlt
      simp at hj hjlt
      omega
    · exact hother

/-- Fields of a scope that its rows do not depend on may change. -/
theorem IsSound.mono (h : scope.IsSound count) {stop indent : Nat} {outerIndent : Option Nat}
    (hstop : stop ≤ count) : ({ scope with stop, indent, outerIndent } : BlockScope).IsSound count :=
  ⟨hstop, h.no_return, h.rows⟩

theorem le_dropIndent (row : BlockRow) (last indent fuel place columns : Nat) :
    place ≤ (scope.dropIndent row last indent fuel place columns).1 := by
  fun_induction scope.dropIndent row last indent fuel place columns <;> omega

theorem return_not_mem_rowContent (h : scope.IsSound count) (line indent : Nat) (withEnd : Bool) :
    '\r' ∉ scope.rowContent line indent withEnd := by
  unfold rowContent
  dsimp only
  rw [List.mem_append, not_or, List.mem_replicate]
  exact ⟨by simp, return_not_mem_sliceOf h _ _⟩

/-- Without its end the text of a row has no line feed. -/
theorem newline_not_mem_rowContent (h : scope.IsSound count) (line indent : Nat) :
    '\n' ∉ scope.rowContent line indent false := by
  unfold rowContent
  dsimp only
  rw [List.mem_append, not_or, List.mem_replicate]
  exact ⟨by simp, newline_not_mem_sliceOf h (le_dropIndent _ _ _ _ _ _) (Nat.le_refl _)⟩

/-- With its end the text of a row is a line. -/
theorem isLine_rowContent (h : scope.IsSound count) (line indent : Nat) (withEnd : Bool) :
    IsLine (scope.rowContent line indent withEnd) := by
  cases withEnd with
  | false => exact ⟨_, newline_not_mem_rowContent h line indent, .inl rfl⟩
  | true =>
    unfold rowContent
    dsimp only
    rw [if_pos rfl]
    have hplace := @le_dropIndent scope (scope.row line) ((scope.row line).last + 1) indent
      ((scope.row line).last + 1 - (scope.row line).first) (scope.row line).first 0
    generalize scope.dropIndent _ _ _ _ _ _ = reached at hplace
    obtain ⟨place, columns⟩ := reached
    dsimp only at hplace ⊢
    -- the characters up to the end of the row, and the one that ends it
    have hsplit : sliceOf scope.text place ((scope.row line).last + 1) =
        sliceOf scope.text place (scope.row line).last ++
          sliceOf scope.text (max place (scope.row line).last) ((scope.row line).last + 1) :=
      sliceOf_append (Nat.le_succ _)
    refine isLine_append (by rw [List.mem_replicate]; simp) ?_
    rw [hsplit]
    refine isLine_append (newline_not_mem_sliceOf h hplace (Nat.le_refl _)) ?_
    refine isLine_of_length_le ?_
    rw [length_sliceOf]
    omega

theorem return_not_mem_content (h : scope.IsSound count) (first stop indent : Nat) (withLastEnd : Bool) :
    '\r' ∉ scope.content first stop indent withLastEnd := by
  rw [content, List.mem_flatMap]
  rintro ⟨i, -, hmem⟩
  exact return_not_mem_rowContent h _ _ _ hmem

/-- The text of some rows has no more lines than there are rows. -/
theorem lineCount_content_le (h : scope.IsSound count) (first stop indent : Nat) (withLastEnd : Bool) :
    lineCount (scope.content first stop indent withLastEnd) ≤ stop - first := by
  have hle := @lineCount_flatMap_le (List.range (stop - first)) _ fun i _ =>
    isLine_rowContent h (first + i) indent (first + i + 1 < stop || withLastEnd)
  rwa [List.length_range] at hle

/-- Without the last line end the text of some rows has fewer line ends than there are rows. -/
theorem count_content_lt (h : scope.IsSound count) {first stop : Nat} (hlt : first < stop) (indent : Nat) :
    (scope.content first stop indent false).count '\n' < stop - first := by
  obtain ⟨rows, rfl⟩ : ∃ rows, stop = first + rows + 1 := ⟨stop - first - 1, by omega⟩
  have hle := @count_flatMap_le (List.range rows) _ fun i _ =>
    isLine_rowContent h (first + i) indent (first + i + 1 < first + rows + 1 || false)
  rw [List.length_range] at hle
  have hlast : (decide (first + rows + 1 < first + rows + 1) || false) = false := by simp
  rw [content, show first + rows + 1 - first = rows + 1 by omega, List.range_succ, List.flatMap_append,
    List.count_append, List.flatMap_singleton, hlast,
    List.count_eq_zero.mpr (newline_not_mem_rowContent h _ _)]
  omega

/-- The text of a paragraph has fewer line ends than rows. -/
theorem count_paragraphText_lt (h : scope.IsSound count) {first stop : Nat} (hlt : first < stop) :
    (scope.paragraphText first stop).toList.count '\n' < stop - first := by
  rw [paragraphText, String.toList_ofList]
  exact Nat.lt_of_le_of_lt ((trimChars_sublist _).count_le _) (count_content_lt h hlt _)

/-! ### The rows of a text -/

section ofText

variable {text : Array Char}

theorem isFree_ofLine (fuel first : Nat) :
    (BlockRow.ofLine text first (skipWhile (· ≠ '\n') text first fuel)).IsFree text := by
  intro j hj hjlt hget
  obtain ⟨c, hc, hne⟩ := exists_of_lt_skipWhile hj hjlt
  rw [hget] at hc
  simp [← Option.some.inj hc] at hne

theorem isFree_of_mem_rowsFrom {fuel first : Nat} {row : BlockRow} (h : row ∈ rowsFrom text fuel first) :
    row.IsFree text := by
  induction fuel generalizing first with
  | zero => simp [rowsFrom] at h
  | succ fuel ih =>
    rw [rowsFrom] at h
    dsimp only at h
    split_ifs at h
    · simp at h
    · simp at h
    · obtain rfl := List.mem_singleton.mp h
      exact isFree_ofLine _ _
    · rcases List.mem_cons.mp h with rfl | h
      · exact isFree_ofLine _ _
      · exact ih h

/-- There are no more rows from a place on than lines. -/
theorem length_rowsFrom_le (fuel first : Nat) :
    (rowsFrom text fuel first).length ≤ lineCount (sliceOf text first text.size) := by
  induction fuel generalizing first with
  | zero => exact Nat.zero_le _
  | succ fuel ih =>
    rw [rowsFrom]
    dsimp only
    split_ifs with hend hlast
    · exact Nat.zero_le _
    · exact Nat.zero_le _
    · -- the last row, which no line feed ends
      have hsize : first < text.size := by omega
      obtain ⟨c, hc, hne⟩ := @exists_of_lt_skipWhile (· ≠ '\n') text first (text.size - first) first
        (Nat.le_refl _) (by omega)
      have hfirst := @count_take_lt_lineCount (sliceOf text first text.size) 0 c
        (by rw [sliceOf_cons hc hsize]; rfl) (by simpa using hne)
      rw [List.length_singleton]
      omega
    · -- the first row and the line feed that ends it make one line
      have hrest := ih (skipWhile (· ≠ '\n') text first (text.size - first) + 1)
      have hle := @le_skipWhile (· ≠ '\n') text first (text.size - first)
      obtain ⟨c, hc, hfeed⟩ := @exists_of_skipWhile_lt (· ≠ '\n') text first (text.size - first) (by omega)
        (by omega)
      generalize skipWhile (· ≠ '\n') text first (text.size - first) = last at *
      obtain rfl : c = '\n' := by simpa using hfeed
      rw [@sliceOf_append _ first last _ (by omega), Nat.max_eq_right hle, sliceOf_cons hc (by omega),
        lineCount_append_feed, List.length_cons]
      omega

/-- The rows of a text without carriage returns. -/
theorem isSound_ofText (h : '\r' ∉ text.toList) : (ofText text).IsSound (ofText text).stop where
  stop_le := Nat.le_refl _
  no_return := h
  rows line := by
    rw [row, Array.getD_eq_getD_getElem?]
    cases hrow : (ofText text).rows[line]? with
    | none =>
      intro j hj hjlt
      simp at hj hjlt
      omega
    | some row =>
      refine @isFree_of_mem_rowsFrom text (text.size + 1) 0 row ?_
      exact List.mem_toArray.mp (Array.mem_of_getElem? hrow)

theorem stop_ofText_le (text : Array Char) : (ofText text).stop ≤ lineCount text.toList := by
  have hle := @length_rowsFrom_le text (text.size + 1) 0
  rw [sliceOf, Array.extract_size] at hle
  exact hle

end ofText

end BlockScope

end ProposalCheck.Markdown

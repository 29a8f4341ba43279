import ProposalCheck.Proofs.Markdown.Inline

/-!
# Blocks stand on the rows of their text

A reader of blocks starts at a row of a scope whose rows are free of line ends, and what it reads ends by the
last of the rows. The text of a paragraph or heading, and the content of a fence, have room on the rows that
their block covers. Quotes and items offer rows to the blocks in them that are parts of their own rows, so
the same holds at each level.

## Main definitions

* `Blocks.Fit`: some blocks stand within a number of rows
* `IsReader`: a reader whose blocks fit
* `rowCount`: the number of rows of a text

## Main results

* `BlockScope.fit_readBlock`: each kind of block fits
* `isReader_readBlocks`: the blocks of a container fit
* `Tree.fits_ofMarkdown`: the tree of a text fits its rows
-/

namespace ProposalCheck.Markdown

variable {count : Nat}

/-! ### Elements -/

/-- An element that neither holds text nor is a fence fits if its lines do. -/
theorem Element.fits_plain {element : Element} (hinline : element.kind ≠ .inline) (hfence : element.kind ≠ .fence)
    (hlines : ∀ range, element.lines = some range → range.first < count ∧ range.stop ≤ count) :
    element.Fits count :=
  ⟨hlines, fun h => absurd h hinline, fun h => absurd h hfence⟩

/-- The text of a block fits if it ends fewer lines than it has. -/
theorem fits_textOf {content : String} {first stop : Nat} (hstop : stop ≤ count)
    (hcontent : first + content.toList.count '\n' < stop) : (textOf content first stop).Fits count := by
  refine .text rfl ⟨?_, fun _ => ⟨_, rfl, hcontent⟩, by simp⟩ (by simp) (by simp)
  intro range hrange
  cases hrange
  have hfirst : first < count := by omega
  exact ⟨hfirst, hstop⟩

/-- A text without line feeds fits on one line. -/
theorem fits_textOf_line {content : List Char} {line : Nat} (hline : line < count) (h : '\n' ∉ content) :
    (textOf (String.ofList content) line (line + 1)).Fits count := by
  refine fits_textOf hline ?_
  rw [String.toList_ofList, List.count_eq_zero.mpr h]
  exact Nat.lt_succ_self line

/-- Some blocks stand within a number of rows, and so does what comes after them. -/
structure Blocks.Fit (count : Nat) (blocks : Blocks) : Prop where
  next_le : blocks.next ≤ count
  trees : ∀ tree ∈ blocks.trees, tree.Fits count

namespace Blocks

/-- A block without other blocks in it. -/
theorem fit_single {element : Element} {children : List Tree} {first next : Nat}
    (hinline : element.kind ≠ .inline) (hfence : element.kind ≠ .fence) (hfirst : first < count)
    (hnext : next ≤ count) (hchildren : ∀ tree ∈ children, tree.Fits count) :
    (single element children first next).Fit count := by
  refine ⟨hnext, List.forall_mem_singleton.mpr (.block hinline (Element.fits_plain hinline hfence ?_) hchildren)⟩
  intro range hrange
  cases hrange
  exact ⟨hfirst, hnext⟩

theorem Fit.around {inner : Blocks} (h : inner.Fit count) {element : Element} {first : Nat}
    (hinline : element.kind ≠ .inline) (hfence : element.kind ≠ .fence) (hfirst : first < count) :
    (inner.around element first).Fit count :=
  ⟨h.next_le, (fit_single hinline hfence hfirst h.next_le h.trees).trees⟩

theorem Fit.followedBy {blocks more : Blocks} (h : blocks.Fit count) (hmore : more.Fit count) :
    (blocks.followedBy more).Fit count :=
  ⟨hmore.next_le, List.forall_mem_append.mpr ⟨h.trees, hmore.trees⟩⟩

theorem fit_empty {next : Nat} {targets : LinkTargets} (h : next ≤ count) :
    ({ next, targets } : Blocks).Fit count := ⟨h, by simp⟩

end Blocks

/-- A reader whose blocks fit wherever it starts. -/
def IsReader (count : Nat) (read : BlockReader) : Prop :=
  ∀ scope line stop, scope.IsSound count → line ≤ count → stop ≤ count → (read scope line stop).Fit count

namespace BlockScope

variable {scope : BlockScope} {line stop : Nat}

/-! ### Where blocks end -/

theorem le_codeStop {last fuel : Nat} (hline : line ≤ stop) (hlast : last ≤ stop) :
    scope.codeStop stop last fuel line ≤ stop := by
  fun_induction codeStop scope stop last fuel line <;> grind

theorem fenceStop_bounds {fence : FenceStart} {fuel : Nat} (hline : line ≤ stop) :
    line ≤ (scope.fenceStop fence stop fuel line).1 ∧
      (scope.fenceStop fence stop fuel line).1 + (if (scope.fenceStop fence stop fuel line).2 then 1 else 0) ≤
        stop := by
  fun_induction fenceStop scope fence stop fuel line <;> grind

theorem htmlStop_le {rule : HtmlBlockRule} {fuel : Nat} (hline : line ≤ stop) :
    scope.htmlStop rule stop fuel line ≤ stop := by
  fun_induction htmlStop scope rule stop fuel line <;> grind

theorem underlineStop_bounds {fuel last : Nat} {marker : Char}
    (h : scope.underlineStop? stop fuel line = some (last, marker)) : line ≤ last ∧ last < stop := by
  fun_induction underlineStop? scope stop fuel line <;> grind

theorem paragraphStop_bounds {fuel : Nat} (hline : line ≤ count) (hstop : scope.stop ≤ count) :
    line ≤ scope.paragraphStop fuel line ∧ scope.paragraphStop fuel line ≤ count := by
  fun_induction paragraphStop scope fuel line <;> grind

theorem skipEmpty_le {fuel : Nat} (hline : line ≤ count) (hstop : scope.stop ≤ count) :
    scope.skipEmpty line fuel ≤ count := by
  fun_induction skipEmpty scope line fuel <;> grind

/-! ### Blocks without blocks in them -/

theorem fit_readCodeBlock (hline : line < stop) (hstop : stop ≤ count) :
    (scope.readCodeBlock line stop).Fit count :=
  Blocks.fit_single (by simp) (by simp) (by omega) (Nat.le_trans (le_codeStop hline hline) hstop) (by simp)

/-- The content of a fence has no more lines than there are rows below its first one. -/
theorem fit_readFence (h : scope.IsSound count) (fence : FenceStart) (hline : line < stop) (hstop : stop ≤ count) :
    (scope.readFence fence line stop).Fit count := by
  have hbounds := @fenceStop_bounds scope (line + 1) stop fence (stop - line) hline
  rw [readFence]
  generalize scope.fenceStop fence stop (stop - line) (line + 1) = reached at *
  obtain ⟨last, closed⟩ := reached
  obtain ⟨hlast, hend⟩ := hbounds
  dsimp only at hlast hend ⊢
  -- the content has a line for each row in between, and the closing row is one row more
  have hcontent := lineCount_content_le h (line + 1) last (scope.row line).indent.toNat true
  have hnext : last ≤ (if closed then last + 1 else last) ∧ (if closed then last + 1 else last) ≤ count := by
    split_ifs at hend ⊢ <;> omega
  refine ⟨hnext.2, List.forall_mem_singleton.mpr (.block (by simp) ⟨?_, by simp, fun _ => ⟨_, rfl, ?_, ?_⟩⟩ (by simp))⟩
  · intro range hrange
    cases hrange
    exact ⟨Nat.lt_of_lt_of_le hline hstop, hnext.2⟩
  · rw [String.toList_ofList]
    exact return_not_mem_content h _ _ _ _
  · rw [String.toList_ofList]
    dsimp only
    omega

theorem fit_readHtmlBlock (rule : HtmlBlockRule) (hline : line < stop) (hstop : stop ≤ count) :
    (scope.readHtmlBlock rule line stop).Fit count := by
  have hnext := @htmlStop_le scope (line + 1) stop rule (stop - line) hline
  refine Blocks.fit_single (by simp) (by simp) (Nat.lt_of_lt_of_le hline hstop) ?_ (by simp)
  split_ifs <;> omega

theorem fit_readHeading (h : scope.IsSound count) (level : Nat) (hline : line < count) :
    (scope.readHeading level line).Fit count := by
  refine Blocks.fit_single (by simp) (by simp) hline hline (List.forall_mem_singleton.mpr ?_)
  -- the text of the heading is a part of its row
  have hparts : ∀ part : List Char, part.Sublist ((scope.lineText line).drop level).reverse →
      (textOf (trim (String.ofList part.reverse)) line (line + 1)).Fits count := by
    intro part hpart
    refine fits_textOf_line hline fun hmem => newline_not_mem_lineText h line ?_
    rw [String.toList_ofList] at hmem
    have hmem := hpart.subset (List.mem_reverse.mp ((trimChars_sublist _).subset hmem))
    exact List.mem_of_mem_drop (List.mem_reverse.mp hmem)
  have hgaps := List.dropWhile_sublist isGap (l := ((scope.lineText line).drop level).reverse)
  split_ifs
  · exact hparts _ ((List.dropWhile_sublist _).trans hgaps)
  · exact hparts _ hgaps

theorem fit_readUnderlined (h : scope.IsSound count) {blocks : Blocks} (hline : line < stop) (hstop : stop ≤ count)
    (hblocks : scope.readUnderlined? line stop = some blocks) : blocks.Fit count := by
  obtain ⟨⟨last, marker⟩, hlast, rfl⟩ := Option.map_eq_some_iff.mp hblocks
  obtain ⟨hfirst, hend⟩ := underlineStop_bounds hlast
  refine Blocks.fit_single (by simp) (by simp) (Nat.lt_of_lt_of_le hline hstop) (by omega)
    (List.forall_mem_singleton.mpr (fits_textOf (by omega) ?_))
  have hcount := count_paragraphText_lt h hfirst
  omega

theorem fit_readParagraph (h : scope.IsSound count) (hline : line < count) :
    (scope.readParagraph line).Fit count := by
  obtain ⟨hfirst, hend⟩ := @paragraphStop_bounds count scope (line + 1) (scope.stop - line) hline h.stop_le
  refine Blocks.fit_single (by simp) (by simp) hline hend
    (List.forall_mem_singleton.mpr (fits_textOf hend ?_))
  have hcount := count_paragraphText_lt h hfirst
  omega

/-! ### Tables -/

theorem fits_rowTree {kind : Kind} {cells : List (List Char)} (hinline : kind ≠ .inline) (hfence : kind ≠ .fence)
    (hline : line < count) (hcells : ∀ cell ∈ cells, '\n' ∉ cell) : (rowTree kind cells line).Fits count := by
  refine .block (by simp) (Element.fits_plain (by simp) (by simp) ?_) fun tree htree => ?_
  · intro range hrange
    cases hrange
    exact ⟨hline, hline⟩
  · obtain ⟨cell, hcell, rfl⟩ := List.mem_map.mp htree
    refine .block hinline (Element.fits_plain hinline hfence (by simp)) (List.forall_mem_singleton.mpr ?_)
    exact fits_textOf_line hline fun hmem => hcells cell hcell ((trimChars_sublist cell).subset hmem)

/-- The characters of a cell come from the row, but for bars. -/
theorem not_mem_of_mem_splitCells {escaped : Bool} {cell cs piece : List Char} (hcell : '\n' ∉ cell)
    (hcs : '\n' ∉ cs) (h : piece ∈ splitCells escaped cell cs) : '\n' ∉ piece := by
  fun_induction splitCells escaped cell cs with
  | case1 => 
    obtain rfl := List.mem_singleton.mp h
    simpa using hcell
  | case2 cell rest ih =>
    refine ih ?_ (fun hmem => hcs (List.mem_cons_of_mem _ hmem)) h
    simp only [List.mem_cons, not_or]
    exact ⟨by decide, fun hmem => hcell (List.mem_of_mem_drop hmem)⟩
  | case3 _ cell rest _ ih =>
    rcases List.mem_cons.mp h with rfl | h
    · simpa using hcell
    · exact ih (by simp) (fun hmem => hcs (List.mem_cons_of_mem _ hmem)) h
  | case4 _ cell c rest _ ih =>
    rw [List.mem_cons, not_or] at hcs
    exact ih (by simp [hcs.1, hcell]) hcs.2 h

theorem not_mem_of_mem_tableCells {text cell : List Char} (htext : '\n' ∉ text) (h : cell ∈ tableCells text) :
    '\n' ∉ cell := by
  refine @not_mem_of_mem_splitCells false [] text cell List.not_mem_nil htext ?_
  rw [tableCells] at h
  split_ifs at h
  · exact List.mem_of_mem_drop (List.dropLast_subset _ h)
  · exact List.mem_of_mem_drop h
  · exact List.dropLast_subset _ h
  · exact h

theorem not_mem_trimChars_lineText (h : scope.IsSound count) (line : Nat) :
    '\n' ∉ trimChars (scope.lineText line) :=
  fun hmem => newline_not_mem_lineText h line ((trimChars_sublist _).subset hmem)

/-- The header of a table has the cells of its first row, and there is a second one. -/
theorem of_table? {table : TableStart} (h : scope.IsSound count) (htable : scope.table? line stop = some table) :
    line + 2 ≤ stop ∧ ∀ cell ∈ table.header, '\n' ∉ cell := by
  rw [BlockScope.table?] at htable
  split_ifs at htable with hstop
  dsimp only at htable
  split at htable
  · split_ifs at htable
    split at htable
    · cases htable
    · split_ifs at htable
      cases htable
      refine ⟨by simp at hstop; omega, fun cell hcell => ?_⟩
      exact not_mem_of_mem_tableCells (not_mem_trimChars_lineText h line) hcell
  · cases htable

theorem fit_bodyRows (h : scope.IsSound count) {columns fuel : Nat} {missing : Int} (hline : line ≤ stop)
    (hstop : stop ≤ count) :
    line + (scope.bodyRows columns stop fuel missing line).length ≤ stop ∧
      ∀ tree ∈ scope.bodyRows columns stop fuel missing line, tree.Fits count := by
  induction fuel generalizing line missing with
  | zero => exact ⟨hline, by simp [bodyRows]⟩
  | succ fuel ih =>
    rw [bodyRows]
    split_ifs with hend
    · exact ⟨hline, by simp⟩
    dsimp only
    split_ifs
    · exact ⟨hline, by simp⟩
    have hlt : line < stop := by
      simp at hend
      omega
    obtain ⟨hlength, hrows⟩ := @ih (line + 1)
      (missing + columns - (tableCells (trimChars (scope.lineText line))).length) hlt
    refine ⟨by rw [List.length_cons]; omega, List.forall_mem_cons.mpr ⟨?_, hrows⟩⟩
    refine fits_rowTree (by simp) (by simp) (Nat.lt_of_lt_of_le hlt hstop) fun cell hcell => ?_
    -- rows that are too short are filled up with empty cells
    rcases List.mem_append.mp (List.mem_of_mem_take hcell) with hcell | hcell
    · exact not_mem_of_mem_tableCells (not_mem_trimChars_lineText h line) hcell
    · rw [List.eq_of_mem_replicate hcell]
      exact List.not_mem_nil

theorem fit_readTable (h : scope.IsSound count) {table : TableStart} (htable : scope.table? line stop = some table)
    (hstop : stop ≤ count) : (scope.readTable table line stop).Fit count := by
  obtain ⟨hline, hheader⟩ := of_table? h htable
  obtain ⟨hlength, hrows⟩ := @fit_bodyRows count scope (line + 2) stop h table.header.length (stop - line) 0 hline hstop
  -- the table, its head and its body need no more than that their rows are there
  have hnode : ∀ {kind : Kind} {first next : Nat} {children : List Tree}, kind ≠ .inline → kind ≠ .fence →
      first < count → next ≤ count → (∀ tree ∈ children, tree.Fits count) →
      (Tree.node { kind, lines := some ⟨first, next⟩ } children).Fits count := by
    intro kind first next children hinline hfence hfirst hnext hchildren
    refine .block hinline (Element.fits_plain hinline hfence fun range hrange => ?_) hchildren
    cases hrange
    exact ⟨hfirst, hnext⟩
  refine Blocks.fit_single (by simp) (by simp) (by omega) (by omega) (List.forall_mem_cons.mpr ⟨?_, ?_⟩)
  · exact hnode (by simp) (by simp) (by omega) (by omega)
      (List.forall_mem_singleton.mpr (fits_rowTree (by simp) (by simp) (by omega) hheader))
  · split_ifs with hempty
    · simp
    · have hpos : 0 < (scope.bodyRows table.header.length stop (stop - line) 0 (line + 2)).length := by
        rw [List.length_pos_iff]
        simpa using hempty
      exact List.forall_mem_singleton.mpr (hnode (by simp) (by simp) (by omega) (by omega) hrows)

/-! ### Definitions -/

/-- The row that would be added next to the text of a definition is one of the rows, or the one after them. -/
theorem next_extend? {text longer : DefinitionText} (hstop : scope.stop ≤ count)
    (h : scope.extend? text = some longer) : longer.next ≤ count := by
  obtain ⟨more, hmore, rfl⟩ := Option.map_eq_some_iff.mp h
  rw [continuation?] at hmore
  split_ifs at hmore with hend
  simp at hend
  exact Nat.le_trans hend.1 hstop

theorem next_extendAt {text : DefinitionText} (hstop : scope.stop ≤ count) (h : text.next ≤ count) (place : Nat) :
    (scope.extendAt text place).next ≤ count := by
  rw [extendAt]
  split_ifs
  · cases hlonger : scope.extend? text with
    | none => exact h
    | some longer => exact next_extend? hstop hlonger
  · exact h

theorem next_labelStop? {fuel place last : Nat} {text longer : DefinitionText} (hstop : scope.stop ≤ count)
    (hnext : text.next ≤ count) (h : scope.labelStop? fuel text place = some (last, longer)) :
    longer.next ≤ count := by
  fun_induction labelStop? scope fuel text place <;> grind [next_extendAt]

theorem next_skipGapRows {fuel place : Nat} {text : DefinitionText} (hstop : scope.stop ≤ count)
    (hnext : text.next ≤ count) : (scope.skipGapRows fuel text place).2.next ≤ count := by
  fun_induction skipGapRows scope fuel text place <;> grind [next_extendAt]

theorem next_titleRows {fuel place : Nat} {scan : TitleScan} {text : DefinitionText} (hstop : scope.stop ≤ count)
    (hnext : text.next ≤ count) : (scope.titleRows fuel scan text place).2.1.next ≤ count := by
  fun_induction titleRows scope fuel scan text place <;> grind [next_extend?]

theorem afterDestination_le {fuel place next : Nat} {text : DefinitionText} (hstop : scope.stop ≤ count)
    (hnext : text.next ≤ count) (h : scope.afterDestination? fuel text place = some next) : next ≤ count := by
  rw [afterDestination?] at h
  have hgaps := @next_skipGapRows count scope fuel place text hstop hnext
  generalize scope.skipGapRows fuel text place = skipped at *
  obtain ⟨start, longer⟩ := skipped
  have htitle := @next_titleRows count scope fuel start (titleAt longer.chars start longer.chars.size) longer hstop hgaps
  dsimp only at h
  generalize scope.titleRows fuel (titleAt longer.chars start longer.chars.size) longer start = scanned at *
  obtain ⟨scan, last, reached⟩ := scanned
  dsimp only at h htitle
  -- without a title the definition ends with the row of its destination
  have hwithout : ∀ {c : Prop} [Decidable c], (if c then some text.next else none) = some next → next ≤ count := by
    intro c _ hif
    split_ifs at hif
    cases hif
    exact hnext
  split at h
  · split_ifs at h
    · cases h
      exact htitle
    all_goals
      cases h
      exact hnext
  · exact hwithout h

theorem definition_next_le {definition : Definition} (hstop : scope.stop ≤ count) (hline : line < count)
    (h : scope.definition? line = some definition) : definition.next ≤ count := by
  rw [definition?] at h
  split_ifs at h
  dsimp only at h
  split at h
  · cases h
  rename_i last text hlabel
  -- each step takes up more rows, and none of them goes past the end
  have htext : text.next ≤ count := next_labelStop? hstop (by exact hline) hlabel
  split_ifs at h
  have hgaps := @next_skipGapRows count scope (scope.text.size + 1) (last + 2) text hstop htext
  generalize scope.skipGapRows (scope.text.size + 1) text (last + 2) = skipped at *
  obtain ⟨place, longer⟩ := skipped
  dsimp only at h hgaps
  split at h
  · cases h
  split_ifs at h
  obtain ⟨next, hnext, rfl⟩ := Option.map_eq_some_iff.mp h
  exact afterDestination_le hstop hgaps hnext

/-! ### Quotes -/

theorem isFree_row (h : scope.IsSound count) (line : Nat) {row : BlockRow} (hfirst : (scope.row line).first ≤ row.first)
    (hlast : row.last = (scope.row line).last) : row.IsFree scope.text :=
  fun j hj hjlt => h.rows line j (Nat.le_trans hfirst hj) (hlast ▸ hjlt)

/-- A row without the mark of a quote is a part of the row. -/
theorem isFree_unquoted (h : scope.IsSound count) (line : Nat) : (scope.unquoted line).IsFree scope.text := by
  refine isFree_row h line ?_ rfl
  rw [unquoted]
  dsimp only
  rw [BlockRow.start]
  omega

theorem quoteRows_spec (h : scope.IsSound count) (hstop : stop ≤ count) {fuel : Nat} {inner : BlockScope}
    {lastEmpty : Bool} (hline : line ≤ stop) (hinner : inner.IsSound count) (htext : inner.text = scope.text) :
    (scope.quoteRows stop fuel inner lastEmpty line).1.IsSound count ∧
      (scope.quoteRows stop fuel inner lastEmpty line).2 ≤ stop := by
  induction fuel generalizing inner lastEmpty line with
  | zero => exact ⟨hinner, hline⟩
  | succ fuel ih =>
    rw [quoteRows]
    dsimp only
    split_ifs with hend hmark
    · exact ⟨hinner, hline⟩
    all_goals
      have hlt : line < stop := by
        simp at hend
        exact hend.1
    · exact ih hlt (hinner.withRow line (htext ▸ isFree_unquoted h line)) htext
    · exact ⟨hinner, hline⟩
    · -- a block that ends the quote stands on a row of it, at which the blocks in the quote end
      refine ⟨(hinner.withRow line (htext ▸ isFree_row h line (Nat.le_refl _) rfl)).mono ?_, hline⟩
      exact Nat.le_trans hline hstop
    · exact ih hlt (hinner.withRow line (htext ▸ isFree_row h line (Nat.le_refl _) rfl)) htext

theorem fit_readQuote (h : scope.IsSound count) {read : BlockReader} (hread : IsReader count read)
    (hline : line < stop) (hstop : stop ≤ count) : (scope.readQuote read line stop).Fit count := by
  rw [readQuote]
  have hfirst := h.withRow line (isFree_unquoted h line)
  obtain ⟨hinner, hlast⟩ := @quoteRows_spec count scope (line + 1) stop h hstop (stop - line)
    (scope.withRow line (scope.unquoted line)) (scope.unquoted line).isEmpty hline hfirst rfl
  dsimp only
  generalize scope.quoteRows _ _ _ _ _ = reached at *
  obtain ⟨inner, last⟩ := reached
  refine Blocks.Fit.around ?_ (by simp) (by simp) (Nat.lt_of_lt_of_le hline hstop)
  exact hread _ line last (hinner.mono hinner.stop_le) (by omega) (Nat.le_trans hlast hstop)

/-! ### Lists -/

theorem fit_readItem (h : scope.IsSound count) {read : BlockReader} (hread : IsReader count read)
    (mark : ListMarker) (hline : line < stop) (hstop : stop ≤ count) :
    (scope.readItem read mark line stop).Fit count := by
  rw [readItem]
  dsimp only
  generalize passGaps _ _ _ _ _ _ = reached
  obtain ⟨place, column⟩ := reached
  dsimp only
  refine Blocks.Fit.around ?_ (by simp) (by simp) (Nat.lt_of_lt_of_le hline hstop)
  split
  · exact Blocks.fit_empty (Nat.le_trans (Nat.min_le_right _ _) hstop)
  · refine hread _ line stop (IsSound.mono (h.withRow line ?_) h.stop_le) (by omega) hstop
    exact isFree_row h line (Nat.le_refl _) rfl

theorem fit_readItems (h : scope.IsSound count) {read : BlockReader} (hread : IsReader count read) (fuel : Nat)
    (mark : ListMarker) (hline : line < stop) (hstop : stop ≤ count) :
    (scope.readItems read stop fuel mark line).Fit count := by
  induction fuel generalizing mark line with
  | zero => exact Blocks.fit_empty (by omega)
  | succ fuel ih =>
    rw [readItems]
    have hitem := fit_readItem h hread mark hline hstop
    split
    · rename_i next hnext
      refine hitem.followedBy (ih next ?_)
      rw [nextItem?] at hnext
      split_ifs at hnext with hend
      simp at hend
      exact hend.1.1.1
    · exact hitem

/-! ### All blocks -/

theorem fit_readBlock (h : scope.IsSound count) {inQuote inItem : BlockReader} (hquote : IsReader count inQuote)
    (hitem : IsReader count inItem) (hline : line < stop) (hstop : stop ≤ count) :
    (scope.readBlock inQuote inItem line stop).Fit count := by
  have hcount := Nat.lt_of_lt_of_le hline hstop
  -- one case for each kind of block, in the order in which they are tried
  rw [readBlock]
  split
  · exact fit_readTable h ‹_› hstop
  split
  · exact fit_readCodeBlock hline hstop
  split
  · exact fit_readFence h _ hline hstop
  split
  · exact fit_readQuote h hquote hline hstop
  split
  · exact Blocks.fit_single (by simp) (by simp) hcount hcount (by simp)
  split
  · refine Blocks.Fit.around (fit_readItems h hitem _ _ hline hstop) ?_ ?_ hcount <;> split_ifs <;> simp
  split
  · exact Blocks.fit_empty (definition_next_le h.stop_le hcount ‹_›)
  split
  · exact fit_readHtmlBlock _ hline hstop
  split
  · exact fit_readHeading h _ hcount
  split
  · exact fit_readUnderlined h hline hstop ‹_›
  · exact fit_readParagraph h hcount

theorem fit_readFrom (h : scope.IsSound count) {readers : Option (BlockReader × BlockReader)}
    (hreaders : ∀ inQuote inItem, readers = some (inQuote, inItem) → IsReader count inQuote ∧ IsReader count inItem)
    (fuel : Nat) (hline : line ≤ count) (hstop : stop ≤ count) : (scope.readFrom readers stop fuel line).Fit count := by
  induction fuel generalizing line with
  | zero => exact Blocks.fit_empty hline
  | succ fuel ih =>
    rw [readFrom]
    split_ifs with hend
    · exact Blocks.fit_empty hline
    have hskip := @skipEmpty_le count scope line scope.stop hline h.stop_le
    dsimp only
    split_ifs with hskipped
    · exact Blocks.fit_empty hskip
    split
    · exact Blocks.fit_empty hstop
    · rename_i inQuote inItem
      obtain ⟨hquote, hitem⟩ := hreaders inQuote inItem rfl
      -- a block ends behind its first row, so that the rest is read with less fuel
      have hblock := fit_readBlock h hquote hitem (by simp at hskipped; exact hskipped.1) hstop
      refine hblock.followedBy (ih ?_)
      have hnext := hblock.next_le
      split_ifs with hempty
      · simp at hempty
        omega
      · exact hnext

end BlockScope

/-- The blocks of a container fit, however deep they may nest. -/
theorem isReader_readBlocks (depth : Nat) : IsReader count (readBlocks depth) := by
  induction depth using Nat.strongRecOn with
  | _ depth ih =>
    intro scope line stop h hline hstop
    match depth, ih with
    | 0, _ =>
      rw [readBlocks]
      exact BlockScope.fit_readFrom h (fun _ _ hnone => by cases hnone) _ hline hstop
    | 1, ih =>
      rw [readBlocks]
      refine BlockScope.fit_readFrom h (fun _ _ hsome => ?_) _ hline hstop
      cases hsome
      exact ⟨ih 0 (by omega), ih 0 (by omega)⟩
    | depth + 2, ih =>
      rw [readBlocks]
      refine BlockScope.fit_readFrom h (fun _ _ hsome => ?_) _ hline hstop
      cases hsome
      exact ⟨ih (depth + 1) (by omega), ih depth (by omega)⟩

/-! ### The tree of a text -/

mutual

/-- The texts of blocks that fit end no more lines than they have. -/
theorem fits_readTexts (targets : LinkTargets) : ∀ {tree : Tree}, tree.Fits count → (readTexts targets tree).Fits count
  | .node element children, h => by
    rw [readTexts]
    cases h with
    | text hinline helement =>
      rw [if_pos hinline]
      exact .text hinline helement (breaksIn_inlineTrees_le _ _) fun _ hpiece =>
        (isPiece_of_mem_inlineTrees _ _ hpiece).all_ne_fence
    | block hinline helement hchildren =>
      rw [if_neg hinline]
      exact .block hinline helement (fits_readAllTexts targets hchildren)

theorem fits_readAllTexts (targets : LinkTargets) : ∀ {trees : List Tree}, (∀ tree ∈ trees, tree.Fits count) →
    ∀ tree ∈ readAllTexts targets trees, tree.Fits count
  | [], _ => by simp [readAllTexts]
  | first :: rest, h => by
    rw [List.forall_mem_cons] at h
    rw [readAllTexts]
    exact List.forall_mem_cons.mpr ⟨fits_readTexts targets h.1, fits_readAllTexts targets h.2⟩

end

/-- The number of rows of a text as blocks are read from it. -/
def rowCount (text : String) : Nat := (BlockScope.ofText (unifyLineEnds text.toList).toArray).stop

/-- A text has no more rows than lines. -/
theorem rowCount_le {text : String} (h : '\r' ∉ text.toList) :
    rowCount text ≤ if text = "" then 0 else text.toList.count '\n' + 1 := by
  have hle := BlockScope.stop_ofText_le (unifyLineEnds text.toList).toArray
  split_ifs with hempty
  · subst hempty
    exact hle
  · refine Nat.le_trans hle (Nat.le_trans (lineCount_le_of_ne_nil _) ?_)
    exact Nat.le_of_eq (congrArg (· + 1) (count_unifyLineEnds h))

/-- The tree of a text fits its rows. -/
theorem Tree.fits_ofMarkdown (text : String) : (Tree.ofMarkdown text).Fits (rowCount text) := by
  have hsound : (BlockScope.ofText (unifyLineEnds text.toList).toArray).IsSound (rowCount text) :=
    BlockScope.isSound_ofText (return_not_mem_unifyLineEnds text.toList)
  have hblocks := isReader_readBlocks maxDepth _ 0 (rowCount text) hsound (Nat.zero_le _) (Nat.le_refl _)
  exact .block (by simp) (Element.fits_plain (by simp) (by simp) (by simp)) (fits_readAllTexts _ hblocks.trees)

end ProposalCheck.Markdown

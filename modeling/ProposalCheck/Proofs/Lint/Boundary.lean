import ProposalCheck.Proofs.Lint.Excerpt
import ProposalCheck.Proofs.Source.Slice

/-!
# Boundaries in excerpts

What lies between two characters of a document lies between two characters of every excerpt that shows it, as
excerpts leave out nothing but whole characters.

## Main results

* `Row.getElem?_ofChars_joined`: the rows of an excerpt
* `Context.isBoundary_shownBytes`: boundaries of the document are boundaries of an excerpt
* `Context.lineRange_spec`, `Context.linesRange_spec`: spans of the document in excerpts
-/

namespace ProposalCheck

variable {cs : List Char}

/-! ### Rows of an excerpt -/

namespace Row

/-- The rows of an excerpt hold the texts of the rows that it is made of, each behind those before it. -/
theorem getElem?_ofChars_joined {rows : List Row} {j : Nat} {row : Row} (hfree : ∀ row ∈ rows, '\n' ∉ row.chars)
    (h : rows[j]? = some row) (start : Nat) :
    (ofChars start ("\n".intercalate (rows.map text)).toList)[j]? =
      some ⟨start + (joined (rows.take j)).length, dropReturn row.chars⟩ := by
  induction rows generalizing start j with
  | nil => cases h
  | cons first rest ih =>
    have hfirst : '\n' ∉ first.text.toList := newline_not_mem_text (hfree first List.mem_cons_self)
    have hchars : first.text.toList = dropReturn first.chars := String.toList_ofList
    -- a line feed is put behind a text only if another text follows
    cases rest with
    | nil =>
      rw [List.map_singleton, String.intercalate_singleton, ofChars_of_not_mem start hfirst, hchars]
      cases j with
      | zero =>
        obtain rfl := Option.some.inj h
        rfl
      | succ j => cases h
    | cons next rest =>
      have hsplit : ("\n".intercalate ((first :: next :: rest).map text)).toList =
          first.text.toList ++ '\n' :: ("\n".intercalate ((next :: rest).map text)).toList := by
        rw [List.map_cons, String.intercalate_cons_of_ne_nil (by simp)]
        simp
      rw [hsplit, ofChars_append_feed hfirst, hchars]
      cases j with
      | zero =>
        obtain rfl := Option.some.inj h
        rfl
      | succ j =>
        have hlength : (joined ((first :: next :: rest).take (j + 1))).length =
            byteLength (dropReturn first.chars) + 1 + (joined ((next :: rest).take j)).length := by
          rw [List.take_succ_cons, joined, List.flatMap_cons, List.length_append, List.length_append, bytes,
            length_charBytes]
          rfl
        rw [List.getElem?_cons_succ, ih (fun row hrow => hfree row (List.mem_cons_of_mem _ hrow)) h, hlength,
          Nat.add_assoc start, Nat.add_assoc start]

end Row

namespace Lines

variable {lines : Lines} {k offset : Nat} {row : Row}

/-- A boundary of a document within the text of a row is one of that text. -/
theorem isBoundary_text (hrow : lines.rowList[k]? = some row) (h : IsBoundary lines.source.toList offset)
    (hstart : row.start ≤ offset) (hstop : offset ≤ row.span.stop) :
    IsBoundary row.text.toList (offset - row.start) := by
  obtain ⟨before, after, hsource, hbefore, -⟩ := exists_source_eq hrow
  rw [hsource] at h
  obtain ⟨middle, rest, hrest, rfl⟩ := h.exists_split (by omega)
  have hspan : row.span.stop = row.start + byteLength (Row.dropReturn row.chars) := rfl
  obtain ⟨tail, hchars⟩ := Row.exists_append_of_dropReturn row.chars
  rw [hchars, List.append_assoc] at hrest
  obtain ⟨gap, htext, -⟩ := exists_gap_of_append_eq hrest.symm (by omega)
  rw [Row.text, String.toList_ofList]
  exact ⟨middle, gap, htext, by omega⟩

end Lines

namespace Context

variable {context : Context} {k : Nat}

/-- The text of an excerpt of some rows. -/
def excerptText (context : Context) (k count : Nat) : String :=
  "\n".intercalate (((context.lines.rowList.drop k).take count).map Row.text)

/-- The rows of an excerpt are the texts of the rows of the document. -/
theorem getElem?_excerptText {j count : Nat} {row : Row} (hrow : context.lines.rowList[k + j]? = some row)
    (hj : j < count) : (Row.ofChars 0 (context.excerptText k count).toList)[j]? =
      some ⟨(Row.joined ((context.lines.rowList.drop k).take j)).length, Row.dropReturn row.chars⟩ := by
  have hget : ((context.lines.rowList.drop k).take count)[j]? = some row := by
    rwa [List.getElem?_take_of_lt hj, List.getElem?_drop]
  have hfree : ∀ row ∈ (context.lines.rowList.drop k).take count, '\n' ∉ row.chars := fun row hmem =>
    context.lines.tiles.newline_not_mem row (List.mem_of_mem_drop (List.mem_of_mem_take hmem))
  have hexcerpt := Row.getElem?_ofChars_joined hfree hget 0
  rwa [List.take_take, Nat.min_eq_left (Nat.le_of_lt hj), Nat.zero_add] at hexcerpt

/-- A boundary of the document is one of an excerpt: what shows before it ends with a whole character. -/
theorem isBoundary_shownBytes {count offset line : Nat} {top : Row} (htop : context.lines.rowList[k]? = some top)
    (hstart : top.start ≤ offset) (hline : context.lines.lineOf offset = .ok line) (hlast : line ≤ k + count)
    (h : IsBoundary context.lines.source.toList offset) :
    IsBoundary (context.excerptText k count).toList (context.shownBytes top.start offset).length := by
  obtain ⟨j, row, hlineOf, hrow, hshown⟩ := context.shownBytes_eq htop hstart (Lines.le_size_of_lineOf hline)
  have hjlt : j < count := by
    have := Except.ok.inj (hline.symm.trans hlineOf)
    omega
  have hspan : row.span.stop = row.start + byteLength (Row.dropReturn row.chars) := rfl
  have htext : byteLength row.text.toList = byteLength (Row.dropReturn row.chars) := by
    rw [Row.text, String.toList_ofList]
  -- the part of the row that shows ends with the offset, or with the text of the row
  have hboundary : IsBoundary row.text.toList (min (offset - row.start) (byteLength row.text.toList)) := by
    by_cases hle : offset ≤ row.span.stop
    · rw [Nat.min_eq_left (by omega)]
      exact Lines.isBoundary_text hrow h (Lines.le_of_lineOf hrow hlineOf).1 hle
    · rw [Nat.min_eq_right (by omega)]
      exact isBoundary_byteLength _
  obtain ⟨pre, post, hsplit, hpre⟩ := hboundary
  obtain ⟨before, after, hsource, hbefore, -⟩ :=
    @Lines.exists_source_eq (.ofString (context.excerptText k count)) _ _ (getElem?_excerptText hrow hjlt)
  rw [Row.text, String.toList_ofList] at hsplit hpre
  refine ⟨before ++ pre, post ++ after, ?_, ?_⟩
  · rw [hsplit] at hsource
    rw [show (context.excerptText k count).toList = _ from hsource]
    simp only [List.append_assoc]
  · rw [byteLength_append, hpre, hbefore, hshown, List.length_append, List.length_take, Row.bytes, length_charBytes]

/-- A span of the document in an excerpt of one line: what lies outside of the line is cut off. -/
theorem lineRange_spec {start stop : Nat} {row : Row} (hrow : context.lines.rowList[k]? = some row)
    (hstart : IsBoundary context.lines.source.toList start) (hstop : IsBoundary context.lines.source.toList stop) :
    ∃ range : Span, context.lineRange ((k + 1 : Nat) : Int) start stop = .ok (range.start, range.stop) ∧
      range.IsWithin row.text := by
  have hspan : row.span = ⟨row.start, row.start + byteLength (Row.dropReturn row.chars)⟩ := rfl
  -- an offset that is brought into the line is a boundary of its text
  have hclamp : ∀ offset : Nat, IsBoundary context.lines.source.toList offset →
      IsBoundary row.text.toList (clamp row.span.start row.span.stop offset - row.span.start).toNat := by
    intro offset hoffset
    rw [hspan, clamp]
    dsimp only
    rcases Nat.lt_or_ge offset row.start with hbefore | hafter
    · rw [show (min (max (offset : Int) row.start) ((row.start + _ : Nat) : Int) - row.start).toNat = 0 by omega]
      exact isBoundary_zero _
    · by_cases hle : offset ≤ row.span.stop
      · rw [hspan] at hle
        dsimp only at hle
        rw [show (min (max (offset : Int) row.start) ((row.start + _ : Nat) : Int) - row.start).toNat =
          offset - row.start by omega]
        exact Lines.isBoundary_text hrow hoffset hafter hle
      · rw [hspan] at hle
        dsimp only at hle
        rw [show (min (max (offset : Int) row.start) ((row.start + _ : Nat) : Int) - row.start).toNat =
          byteLength (Row.dropReturn row.chars) by omega]
        have htext : row.text.toList = Row.dropReturn row.chars := String.toList_ofList
        rw [← htext]
        exact isBoundary_byteLength _
  rw [lineRange, Int.natCast_add, Int.natCast_one, Lines.lineSpan_of_getElem? hrow]
  refine ⟨⟨_, _⟩, rfl, Span.isWithin_of_isBoundary (Nat.le_max_left _ _) (hclamp start hstart) ?_⟩
  rcases Nat.le_total (clamp row.span.start row.span.stop start - row.span.start).toNat
      (clamp row.span.start row.span.stop stop - row.span.start).toNat with hle | hle
  · rw [Nat.max_eq_right hle]
    exact hclamp stop hstop
  · rw [Nat.max_eq_left hle]
    exact hclamp start hstart

/-- A span of the document in an excerpt of the lines on which it starts and ends. -/
theorem linesRange_spec {span : Span} (h : span.IsWithin context.lines.source) :
    ∃ (first last : Nat) (source : String) (range : Span), context.lines.lineOf span.start = .ok first ∧
      context.lines.lineOf span.stop = .ok last ∧
      context.linesRange first span.start span.stop = .ok (range.start, range.stop) ∧
      context.lines.lines first last = .ok source ∧ range.IsWithin source := by
  have hsize : span.stop ≤ context.lines.size := h.stop_le
  obtain ⟨k, top, hfirst, htop, hstart, -⟩ := Lines.lineOf_spec (Nat.le_trans h.le hsize)
  obtain ⟨j, row, hlast, hrow, -⟩ := context.shownBytes_eq htop (Nat.le_trans hstart h.le) hsize
  have hcount : k + (j + 1) ≤ context.lines.count := (List.getElem?_eq_some_iff.mp hrow).1
  have hlines := context.lines_excerpt hcount
  have hs := context.excerptOffset_eq htop hstart (Nat.le_trans h.le hsize)
  have he := context.excerptOffset_eq htop (Nat.le_trans hstart h.le) hsize
  -- the range counts the bytes that show on these lines
  refine ⟨k + 1, k + j + 1, context.excerptText k (j + 1),
    ⟨(context.shownBytes top.start span.start).length, (context.shownBytes top.start span.stop).length⟩,
    hfirst, hlast, ?_, hlines, ?_⟩
  · rw [linesRange, Int.natCast_add, Int.natCast_one, hs, he]
    rfl
  · refine Span.isWithin_of_isBoundary (context.length_shownBytes_le hstart h.le) ?_ ?_
    · exact isBoundary_shownBytes htop hstart hfirst (by omega) h.start
    · exact isBoundary_shownBytes htop (Nat.le_trans hstart h.le) hlast (by omega) h.stop

end Context

end ProposalCheck

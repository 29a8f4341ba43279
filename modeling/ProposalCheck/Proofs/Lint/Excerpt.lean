import ProposalCheck.Lint.Context
import ProposalCheck.Proofs.Source.Rows

/-!
# Positions in excerpts

An excerpt joins the texts of some lines by line feeds, so it lacks the carriage returns before the line
feeds of the document and one at the very end of it. All other bytes of the lines show in the excerpt,
in the same order. A span of the document therefore has an exact place in an excerpt, wherever its ends
lie: on the bytes of it that show.

## Main definitions

* `isKept`: does a byte of a text show in excerpts?
* `keptBytes`: the bytes of a span that do

## Main results

* `keptBytes_row`: from the start of a row on, the bytes that show are those of its text
* `keptBytes_rows`: the same over several rows, with one byte for every line end
* `Context.excerptOffset_eq`: the place of an offset, by the bytes that show before it
* `Context.linesRange_exact`: the place of a span holds exactly the bytes of the span that show
-/

namespace ProposalCheck

/-- Does the byte with some index show in excerpts? The carriage return of a line end does not, nor does
one that is the last byte of the text. -/
def isKept (bytes : List UInt8) (i : Nat) : Bool :=
  decide ¬(bytes[i]? = some 13 ∧ (bytes[i + 1]? = some 10 ∨ i + 1 = bytes.length))

/-- The bytes from `start` up to but not including `stop` that show in excerpts. -/
def keptBytes (bytes : List UInt8) (start stop : Nat) : List UInt8 :=
  ((List.range' start (stop - start)).filter (isKept bytes)).filterMap (bytes[·]?)

variable {bytes before after : List UInt8} {cs : List Char} {start middle stop column : Nat}

theorem keptBytes_append (h₁ : start ≤ middle) (h₂ : middle ≤ stop) :
    keptBytes bytes start stop = keptBytes bytes start middle ++ keptBytes bytes middle stop := by
  have hlength : stop - start = (middle - start) + (stop - middle) := by omega
  have hmiddle : start + (middle - start) = middle := by omega
  rw [keptBytes, hlength, ← List.range'_append_1, hmiddle, List.filter_append,
    List.filterMap_append]
  rfl

/-- Where every byte shows, the bytes that show are those of the text. -/
theorem keptBytes_eq_take (h : ∀ i, start ≤ i → i < stop → isKept bytes i) :
    keptBytes bytes start stop = (bytes.drop start).take (stop - start) := by
  have hall : (List.range' start (stop - start)).filter (isKept bytes) =
      List.range' start (stop - start) := by
    refine List.filter_eq_self.mpr fun i hi => ?_
    have := List.mem_range'_1.mp hi
    exact h i (by omega) (by omega)
  rw [keptBytes, hall]
  generalize stop - start = count
  clear h hall
  induction count generalizing start with
  | zero => simp
  | succ count ih =>
    rw [List.range'_succ, List.filterMap_cons, ih]
    rcases Nat.lt_or_ge start bytes.length with hlt | hge
    · rw [List.drop_eq_getElem_cons hlt, List.getElem?_eq_getElem hlt, List.take_succ_cons]
    · rw [List.getElem?_eq_none hge, List.drop_of_length_le hge, List.drop_of_length_le (by omega)]
      simp

/-! ### One row -/

/-- Every byte of the text of a row shows. -/
theorem isKept_row (hfree : '\n' ∉ cs) {j : Nat} (hj : j < byteLength (Row.dropReturn cs)) :
    isKept (before ++ (charBytes cs ++ after)) (before.length + j) := by
  have hlf : (10 : UInt8) ∉ charBytes cs := fun h => hfree ((mem_charBytes (by decide)).mp h)
  have hlength : byteLength (Row.dropReturn cs) ≤ (charBytes cs).length := by
    rw [length_charBytes]
    exact Row.byteLength_dropReturn_le cs
  rw [isKept, decide_eq_true_eq]
  rintro ⟨hcr, hnext⟩
  rw [List.getElem?_append_right (by omega), List.getElem?_append_left (by omega),
    Nat.add_sub_cancel_left] at hcr
  rcases Nat.lt_or_ge (j + 1) (charBytes cs).length with hin | hend
  · -- the next byte belongs to the row, so it is no line feed and not the end
    rw [Nat.add_assoc, List.getElem?_append_right (by omega),
      List.getElem?_append_left (by omega), Nat.add_sub_cancel_left] at hnext
    rcases hnext with hnext | hnext
    · exact hlf (List.mem_of_getElem? hnext)
    · simp only [List.length_append] at hnext
      omega
  · -- the byte is the last one of the row, whose text would not hold it
    rcases Row.dropReturn_cases cs with ⟨-, hlast⟩ | heq
    · apply hlast
      rw [← getLast?_charBytes (by decide), List.getLast?_eq_getElem?]
      rwa [show (charBytes cs).length - 1 = j by omega]
    · rw [heq, length_charBytes, byteLength_append] at hend
      simp only [byteLength] at hend
      have := Char.utf8Size_pos '\r'
      omega

/-- The carriage return at the end of a row does not show. -/
theorem isKept_return {text : List UInt8} (hafter : after = [] ∨ after.head? = some 10) :
    isKept (before ++ (text ++ 13 :: after)) (before.length + text.length) = false := by
  rw [isKept, decide_eq_false_iff_not, not_not]
  constructor
  · rw [List.getElem?_append_right (by omega), List.getElem?_append_right (by omega)]
    simp
  · rcases hafter with rfl | hfeed
    · exact .inr (by simp; omega)
    · refine .inl ?_
      rw [Nat.add_assoc, List.getElem?_append_right (by omega), Nat.add_sub_cancel_left,
        List.getElem?_append_right (by omega), Nat.add_sub_cancel_left, List.getElem?_cons_succ,
        ← List.head?_eq_getElem?, hfeed]

theorem keptBytes_of_not_isKept {i : Nat} (h : isKept bytes i = false) : keptBytes bytes i (i + 1) = [] := by
  simp [keptBytes, h]

/-- Up to the end of the text of a row, all of its bytes show. -/
theorem keptBytes_text (hfree : '\n' ∉ cs) (hcolumn : column ≤ byteLength (Row.dropReturn cs)) :
    keptBytes (before ++ (charBytes cs ++ after)) before.length (before.length + column) =
      (charBytes (Row.dropReturn cs)).take column := by
  have hall : ∀ i, before.length ≤ i → i < before.length + column →
      isKept (before ++ (charBytes cs ++ after)) i := by
    intro i hi hlt
    obtain ⟨j, rfl⟩ := Nat.exists_eq_add_of_le hi
    exact isKept_row hfree (by omega)
  have hprefix : (charBytes cs).take column = (charBytes (Row.dropReturn cs)).take column := by
    rcases Row.dropReturn_cases cs with ⟨heq, -⟩ | heq
    · rw [heq]
    · conv_lhs => rw [heq, charBytes_append]
      exact List.take_append_of_le_length (by rwa [length_charBytes])
  rw [keptBytes_eq_take hall, List.drop_left, Nat.add_sub_cancel_left, ← hprefix]
  refine List.take_append_of_le_length ?_
  rw [length_charBytes]
  exact Nat.le_trans hcolumn (Row.byteLength_dropReturn_le cs)

/-- From the start of a row on, the bytes that show are those of its text. -/
theorem keptBytes_row (hfree : '\n' ∉ cs) (hafter : after = [] ∨ after.head? = some 10)
    (hcolumn : column ≤ byteLength cs) :
    keptBytes (before ++ (charBytes cs ++ after)) before.length (before.length + column) =
      (charBytes (Row.dropReturn cs)).take column := by
  rcases Nat.lt_or_ge (byteLength (Row.dropReturn cs)) column with hlt | hle
  · rcases Row.dropReturn_cases cs with ⟨heq, -⟩ | heq
    · rw [heq] at hlt
      omega
    · -- only the carriage return is left, and it does not show
      have hlength : byteLength cs = byteLength (Row.dropReturn cs) + 1 := by
        conv_lhs => rw [heq, byteLength_append]
        rfl
      have hcolumn' : column = byteLength (Row.dropReturn cs) + 1 := by omega
      have hbytes : charBytes cs ++ after = charBytes (Row.dropReturn cs) ++ 13 :: after := by
        conv_lhs => rw [heq, charBytes_append, List.append_assoc]
        rfl
      have hdropped : isKept (before ++ (charBytes cs ++ after))
          (before.length + byteLength (Row.dropReturn cs)) = false := by
        rw [hbytes, ← length_charBytes]
        exact isKept_return hafter
      rw [hcolumn', ← Nat.add_assoc, keptBytes_append (Nat.le_add_right _ _) (Nat.le_add_right _ 1),
        keptBytes_text hfree (Nat.le_refl _), keptBytes_of_not_isKept hdropped, List.append_nil,
        ← length_charBytes, List.take_length, List.take_of_length_le (Nat.le_succ _)]
  · exact keptBytes_text hfree hle

/-! ### Several rows -/

theorem keptBytes_feed :
    keptBytes (before ++ 10 :: after) before.length (before.length + 1) = [10] := by
  have hfeed : (before ++ 10 :: after)[before.length]? = some 10 := by simp
  have hkept : isKept (before ++ 10 :: after) before.length := by simp [isKept]
  rw [keptBytes, Nat.add_sub_cancel_left, List.range'_one, List.filter_singleton, hkept, cond_true,
    List.filterMap_cons, hfeed]
  rfl

/-- From the start of a row on, the bytes that show are those of the texts of the rows, with a line
feed after each. -/
theorem keptBytes_rows {rows : List Row} {k offset : Nat} {row : Row}
    (htiles : Row.Tiles start cs rows) (hstart : before.length = start)
    (hrow : rows[k]? = some row) (hle : row.start ≤ offset)
    (hnext : ∀ next, rows[k + 1]? = some next → offset < next.start)
    (hend : offset ≤ start + byteLength cs) :
    keptBytes (before ++ charBytes cs) start offset =
      Row.joined (rows.take k) ++ row.bytes.take (offset - row.start) := by
  induction htiles generalizing before k with
  | @last start cs hfree =>
    obtain ⟨rfl, rfl⟩ : k = 0 ∧ row = ⟨start, cs⟩ := by
      cases k <;> simp_all
    obtain ⟨column, rfl⟩ := Nat.exists_eq_add_of_le hle
    subst hstart
    rw [← List.append_nil (charBytes cs), keptBytes_row hfree (.inl rfl)
      (Nat.le_of_add_le_add_left hend), Nat.add_sub_cancel_left]
    rfl
  | @feed start cs rest rows hfree htail ih =>
    subst hstart
    rw [charBytes_append]
    cases k with
    | zero =>
      obtain rfl : row = ⟨before.length, cs⟩ := by simp_all
      obtain ⟨next, hhead, hstart⟩ := htail.head
      have hlt := hnext next hhead
      obtain ⟨column, rfl⟩ : ∃ column, offset = before.length + column := Nat.exists_eq_add_of_le hle
      rw [keptBytes_row hfree (.inr rfl) (by omega), Nat.add_sub_cancel_left]
      rfl
    | succ k =>
      -- the first row, its line feed, and then the rest of the rows
      have hafter : before.length + byteLength cs + 1 ≤ offset :=
        Nat.le_trans (htail.le_start row (List.mem_of_getElem? hrow)) hle
      have hend' : offset ≤ before.length + byteLength cs + 1 + byteLength rest := by
        rw [byteLength_append, byteLength_feed] at hend
        omega
      have hfirst : keptBytes (before ++ (charBytes cs ++ 10 :: charBytes rest)) before.length
          (before.length + byteLength cs) = (charBytes (Row.dropReturn cs)).take (byteLength cs) :=
        keptBytes_row hfree (.inr rfl) (Nat.le_refl _)
      have hfeed : keptBytes (before ++ charBytes cs ++ 10 :: charBytes rest)
          (before ++ charBytes cs).length ((before ++ charBytes cs).length + 1) = [10] := keptBytes_feed
      have hrest : keptBytes (before ++ charBytes cs ++ [10] ++ charBytes rest)
          (before.length + byteLength cs + 1) offset = _ :=
        ih (by simp [Nat.add_assoc]) hrow hnext hend'
      rw [List.length_append, length_charBytes] at hfeed
      simp only [List.append_assoc, List.cons_append, List.nil_append] at hfeed hrest
      rw [charBytes_feed, keptBytes_append (Nat.le_add_right _ (byteLength cs)) (by omega), hfirst,
        keptBytes_append (Nat.le_add_right _ 1) hafter, hfeed, hrest, List.take_of_length_le]
      · simp [Row.joined, Row.bytes]
      · rw [length_charBytes]
        exact Row.byteLength_dropReturn_le cs

/-! ### Excerpts -/

namespace Context

variable (context : Context)

/-- The bytes of a span of the document that show in excerpts. -/
def shownBytes (start stop : Nat) : List UInt8 :=
  keptBytes (textBytes context.document.source) start stop

theorem shownBytes_append (h₁ : start ≤ middle) (h₂ : middle ≤ stop) :
    context.shownBytes start stop = context.shownBytes start middle ++ context.shownBytes middle stop :=
  keptBytes_append h₁ h₂

/-- What starts later in a document has more of it shown in front. -/
theorem length_shownBytes_le (h₁ : start ≤ middle) (h₂ : middle ≤ stop) :
    (context.shownBytes start middle).length ≤ (context.shownBytes start stop).length := by
  rw [context.shownBytes_append h₁ h₂, List.length_append]
  exact Nat.le_add_right _ _

/-- The number of bytes that each of several lines takes in an excerpt, its line end included. -/
theorem mapM_lineSpan_range (k count : Nat) (h : k + count ≤ context.lines.count) :
    ((Lines.range ((k : Int) + 1) ((k : Int) + count)).mapM fun n => do
        let span ← context.lines.lineSpan n
        return span.stop - span.start + 1) =
      .ok (((context.lines.rowList.drop k).take count).map
        fun row => row.span.stop - row.span.start + 1) := by
  rw [← Lines.mapM_row_range _ k count h]
  congr 1
  funext n
  rw [Lines.lineSpan]
  cases context.lines.row n <;> rfl

/-- What shows of the document from the start of a row up to an offset: the rows in between, and then
the text of the row of the offset up to there. -/
theorem shownBytes_eq {k offset : Nat} {first : Row}
    (hfirst : context.lines.rowList[k]? = some first) (hstart : first.start ≤ offset)
    (hoffset : offset ≤ context.lines.size) :
    ∃ j row, context.lines.lineOf offset = .ok (k + j + 1) ∧
      context.lines.rowList[k + j]? = some row ∧
      context.shownBytes first.start offset =
        Row.joined ((context.lines.rowList.drop k).take j) ++ row.bytes.take (offset - row.start) := by
  obtain ⟨line, row, hline, hrow, hle, hnext⟩ := Lines.lineOf_spec hoffset
  -- the line does not come before the first one of the excerpt
  have hkline : k ≤ line := by
    by_contra hcon
    have hklt : k < context.lines.rowList.length := (List.getElem?_eq_some_iff.mp hfirst).1
    have hafter := List.getElem?_eq_getElem (show line + 1 < context.lines.rowList.length by omega)
    have hlt := hnext _ hafter
    have := context.lines.tiles.start_le (by omega) hafter hfirst
    omega
  obtain ⟨j, rfl⟩ := Nat.exists_eq_add_of_le hkline
  refine ⟨j, row, hline, hrow, ?_⟩
  obtain ⟨pre, rest, hsource, hpre, htiles⟩ := Lines.tiles_drop hfirst
  have hsize : context.lines.size = byteLength pre + byteLength rest := by
    rw [Lines.size, ← byteLength_toList, hsource, byteLength_append]
  rw [shownBytes, textBytes_eq, Document.source, ← lines, hsource, charBytes_append]
  refine keptBytes_rows htiles (by rw [length_charBytes, hpre]) ?_ hle ?_ (by omega)
  · rwa [List.getElem?_drop]
  · intro next hnext'
    rw [List.getElem?_drop] at hnext'
    exact hnext next hnext'

/-- The place of an offset in an excerpt counts the bytes before it that show there. -/
theorem excerptOffset_eq {k offset : Nat} {first : Row}
    (hfirst : context.lines.rowList[k]? = some first) (hstart : first.start ≤ offset)
    (hoffset : offset ≤ context.lines.size) :
    context.excerptOffset ((k : Int) + 1) offset =
      .ok (context.shownBytes first.start offset).length := by
  obtain ⟨j, row, hline, hrow, hshown⟩ := context.shownBytes_eq hfirst hstart hoffset
  have hlt : k + j < context.lines.count := (List.getElem?_eq_some_iff.mp hrow).1
  have hmax : max (((k + j + 1 : Nat) : Int)) ((k : Int) + 1) = ((k + j : Nat) : Int) + 1 := by omega
  have hlast : ((k + j : Nat) : Int) + 1 - 1 = (k : Int) + j := by omega
  have hcolumn : (clamp 0 (row.span.stop - row.span.start : Nat) ((offset : Int) - row.span.start)).toNat =
      (row.bytes.take (offset - row.start)).length := by
    rw [List.length_take, Row.length_bytes, clamp, show row.span.start = row.start from rfl]
    omega
  have hbefore := context.mapM_lineSpan_range k j (by omega)
  rw [excerptOffset, hline, hshown, List.length_append, Row.length_joined]
  simp only [bind, Except.bind, pure, Except.pure, hmax, Lines.lineSpan_of_getElem? hrow, hlast]
    at hbefore ⊢
  rw [hbefore, hcolumn]

/-- An excerpt joins the texts of its rows. -/
theorem lines_excerpt {k count : Nat} (h : k + count ≤ context.lines.count) :
    context.lines.lines ((k : Int) + 1) ((k : Int) + count) =
      .ok ("\n".intercalate (((context.lines.rowList.drop k).take count).map Row.text)) :=
  Lines.lines_eq h

/-- What shows before an offset stands at the beginning of every excerpt that reaches its line. -/
theorem shownBytes_prefix {k count offset line : Nat} {first : Row}
    (hfirst : context.lines.rowList[k]? = some first) (hstart : first.start ≤ offset)
    (hline : context.lines.lineOf offset = .ok line) (hlast : line ≤ k + count) :
    context.shownBytes first.start offset <+:
      textBytes ("\n".intercalate (((context.lines.rowList.drop k).take count).map Row.text)) := by
  obtain ⟨j, row, hlineOf, hj, hshown⟩ :=
    context.shownBytes_eq hfirst hstart (Lines.le_size_of_lineOf hline)
  have hjlt : j < count := by
    have := Except.ok.inj (hline.symm.trans hlineOf)
    omega
  have hrow : ((context.lines.rowList.drop k).take count)[j]? = some row := by
    rwa [List.getElem?_take_of_lt hjlt, List.getElem?_drop]
  have hprefix := Row.joined_append_bytes_prefix hrow
  rw [List.take_take, Nat.min_eq_left (by omega)] at hprefix
  rw [hshown]
  exact ((List.prefix_append_right_inj _).mpr (List.take_prefix _ _)).trans hprefix

/-- The place of a span in an excerpt lies within the excerpt and holds exactly the bytes of the span
that show, wherever the span starts and ends. -/
theorem linesRange_exact {first last start stop line : Nat} {span : Span} (hfirst : 1 ≤ first)
    (hfirstLast : first ≤ last) (hlast : last ≤ context.lines.count)
    (hspan : context.lines.lineSpan first = .ok span) (hstart : span.start ≤ start)
    (hstartStop : start ≤ stop) (hline : context.lines.lineOf stop = .ok line) (hlineLast : line ≤ last) :
    ∃ s e excerpt, context.linesRange first start stop = .ok (s, e) ∧
      context.lines.lines first last = .ok excerpt ∧ s ≤ e ∧ e ≤ excerpt.utf8ByteSize ∧
      ((textBytes excerpt).take e).drop s = context.shownBytes start stop := by
  obtain ⟨k, rfl⟩ : ∃ k, first = k + 1 := ⟨first - 1, by omega⟩
  obtain ⟨count, rfl⟩ : ∃ count, last = k + count := ⟨last - k, by omega⟩
  obtain ⟨row, hrow⟩ : ∃ row, context.lines.rowList[k]? = some row :=
    ⟨_, List.getElem?_eq_getElem (by rw [Lines.length_rowList]; omega)⟩
  rw [Int.natCast_add, Int.natCast_one] at hspan ⊢
  rw [Lines.lineSpan_of_getElem? hrow, Except.ok.injEq] at hspan
  replace hstart : row.start ≤ start := by rwa [← hspan] at hstart
  have hsize := Lines.le_size_of_lineOf hline
  have hs := context.excerptOffset_eq hrow hstart (by omega)
  have he := context.excerptOffset_eq hrow (Nat.le_trans hstart hstartStop) hsize
  -- the excerpt starts with what shows of the document up to the end of the span
  have hprefix := context.shownBytes_prefix hrow (Nat.le_trans hstart hstartStop) hline hlineLast
  have happend := context.shownBytes_append hstart hstartStop
  refine ⟨(context.shownBytes row.start start).length, (context.shownBytes row.start stop).length, _,
    ?_, context.lines_excerpt hlast, ?_, ?_, ?_⟩
  · rw [linesRange, hs, he]
    rfl
  · rw [happend, List.length_append]
    exact Nat.le_add_right _ _
  · rw [← length_textBytes]
    exact hprefix.length_le
  · rw [← List.prefix_iff_eq_take.mp hprefix, happend, List.drop_left]

/-- A span from the carriage return of the first line to behind the one at the very end: neither of them
shows, and the line feeds do. -/
theorem linesRange_exact_returns :
    let context : Context := { document := ⟨none, .ofString "é\r\nab\r\nc\r", ⟨[]⟩, ⟨#[], 1⟩⟩ }
    context.lines.lineSpan 1 = .ok ⟨0, 2⟩ ∧ context.lines.lineOf 10 = .ok 3 ∧
      context.shownBytes 2 10 = [10, 97, 98, 10, 99] ∧
      ∃ s e excerpt, context.linesRange 1 2 10 = .ok (s, e) ∧
        context.lines.lines 1 3 = .ok excerpt ∧ s ≤ e ∧ e ≤ excerpt.utf8ByteSize ∧
        ((textBytes excerpt).take e).drop s = context.shownBytes 2 10 := by
  intro context
  have hspan : context.lines.lineSpan ((1 : Nat) : Int) = .ok ⟨0, 2⟩ := by rfl
  have hline : context.lines.lineOf ((10 : Nat) : Int) = .ok 3 := by rfl
  refine ⟨hspan, hline, by decide, ?_⟩
  exact context.linesRange_exact (show 1 ≤ 1 by decide) (show 1 ≤ 3 by decide)
    (show 3 ≤ context.lines.count by decide) hspan (by decide) (by decide) hline (by decide)

end Context

end ProposalCheck

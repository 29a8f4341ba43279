import Mathlib.Algebra.GroupWithZero.Nat
import ProposalCheck.Proofs.Markdown.Rows
import ProposalCheck.Proofs.Source.Rows
import ProposalCheck.Rule.Embedded

/-!
# Where the content of a fence stands in the document

A line of the content of a fence comes from a line of the document, from which marks of containers and
indentation have been taken. Where it is the end of that line, all of its bytes stand in the document, and
a fence finds them there.

## Main definitions

* `Fence.texts`: the lines of the content
* `Fence.IsAligned`: each line of the content is the end of the line of the document that it came from
* `Fence.Holds`: a byte of the document holds a byte of the content

## Main results

* `Fence.exists_holds`: the bytes of every character but line feeds are held by the document
* `Fence.Holds.offset?_eq`: a byte that is held is found, and so is the place behind it
* `Fence.Holds.le`: the bytes of the content are held in their order
-/

namespace ProposalCheck

/-! ### Texts in lines -/

/-- The byte at which a line starts when lines are joined by line feeds. -/
def textStart (texts : List (List Char)) (i : Nat) : Nat :=
  ((texts.take i).map (byteLength · + 1)).sum

section texts

variable {texts : List (List Char)} {text text' : List Char} {i j : Nat}

@[simp] theorem textStart_zero : textStart texts 0 = 0 := rfl

@[simp] theorem textStart_cons_succ :
    textStart (text :: texts) (i + 1) = byteLength text + 1 + textStart texts i := rfl

/-- A line starts behind the line feed of every earlier one. -/
theorem textStart_lt (hij : i < j) (h : texts[i]? = some text) :
    textStart texts i + byteLength text < textStart texts j := by
  induction texts generalizing i j with
  | nil => simp at h
  | cons first texts ih =>
    obtain ⟨j, rfl⟩ : ∃ k, j = k + 1 := ⟨j - 1, by omega⟩
    cases i with
    | zero =>
      obtain rfl : first = text := by simpa using h
      rw [textStart_zero, textStart_cons_succ]
      omega
    | succ i =>
      rw [List.getElem?_cons_succ] at h
      have := ih (Nat.lt_of_succ_lt_succ hij) h
      rw [textStart_cons_succ, textStart_cons_succ]
      omega

/-- A character that is no line feed goes to the front of the first line. -/
theorem splitWhere_cons {c : Char} (hc : c ≠ '\n') (cs : List Char) :
    ∃ first others, splitWhere (· = '\n') cs = first :: others ∧
      splitWhere (· = '\n') (c :: cs) = (c :: first) :: others := by
  obtain ⟨first, others, hcs⟩ := List.exists_cons_of_ne_nil (splitWhere_ne_nil (· = '\n') cs)
  exact ⟨first, others, hcs, by rw [splitWhere, if_neg (by simpa using hc), hcs]⟩

/-- What stands in front of the first line feed is on the first line. -/
theorem exists_splitWhere_append (middle after : List Char) (hmiddle : '\n' ∉ middle) :
    ∃ back others, splitWhere (· = '\n') (middle ++ after) = (middle ++ back) :: others := by
  induction middle with
  | nil =>
    cases after with
    | nil => exact ⟨_, _, rfl⟩
    | cons c after =>
      by_cases hc : c = '\n'
      · exact ⟨[], _, by rw [List.nil_append, splitWhere, if_pos (by simpa using hc)]; rfl⟩
      · obtain ⟨first, others, -, hsplit⟩ := splitWhere_cons hc after
        exact ⟨_, _, hsplit⟩
  | cons c middle ih =>
    simp only [List.mem_cons, not_or] at hmiddle
    obtain ⟨back, others, hline⟩ := ih hmiddle.2
    obtain ⟨first, others', hcs, hsplit⟩ := splitWhere_cons (Ne.symm hmiddle.1) (middle ++ after)
    obtain ⟨rfl, rfl⟩ := List.cons.inj (hcs.symm.trans hline)
    exact ⟨back, _, hsplit⟩

/-- Characters without a line feed among them stand on one line, whose number is that of the line feeds
before them. -/
theorem exists_line_of_append (before middle after : List Char) (hmiddle : '\n' ∉ middle) :
    ∃ front back,
      (splitWhere (· = '\n') (before ++ (middle ++ after)))[before.count '\n']? =
        some (front ++ (middle ++ back)) ∧
      byteLength before =
        textStart (splitWhere (· = '\n') (before ++ (middle ++ after))) (before.count '\n') +
          byteLength front := by
  induction before with
  | nil =>
    obtain ⟨back, others, hsplit⟩ := exists_splitWhere_append middle after hmiddle
    exact ⟨[], back, by simp [hsplit, byteLength]⟩
  | cons d before ih =>
    obtain ⟨front, back, hline, hbytes⟩ := ih
    by_cases hd : d = '\n'
    · subst hd
      refine ⟨front, back, by simpa [splitWhere] using hline, ?_⟩
      rw [List.count_cons_self, List.cons_append, splitWhere, if_pos (by simp), textStart_cons_succ,
        byteLength_feed, hbytes]
      simp only [byteLength]
      omega
    · obtain ⟨first, others, hcs, hsplit⟩ := splitWhere_cons hd (before ++ (middle ++ after))
      rw [hcs] at hline hbytes
      rw [List.count_cons_of_ne hd, List.cons_append, hsplit]
      -- the character comes to stand at the front of the first line, which may be the one that is looked for
      cases hcount : before.count '\n' with
      | zero =>
        rw [hcount] at hline hbytes
        obtain rfl : first = front ++ (middle ++ back) := by simpa using hline
        refine ⟨d :: front, back, rfl, ?_⟩
        rw [textStart_zero] at hbytes ⊢
        rw [byteLength, hbytes, byteLength]
        omega
      | succ i =>
        rw [hcount] at hline hbytes
        refine ⟨front, back, hline, ?_⟩
        rw [textStart_cons_succ] at hbytes ⊢
        rw [byteLength, hbytes, byteLength]
        omega

/-- A line that is not empty is counted. -/
theorem lt_lineCount {cs : List Char} (h : (splitWhere (· = '\n') cs)[i]? = some text) (hne : text ≠ []) :
    i < Markdown.lineCount cs := by
  induction cs generalizing i text with
  | nil =>
    cases i with
    | zero => exact absurd (Option.some.inj h).symm hne
    | succ i => simp [splitWhere] at h
  | cons c cs ih =>
    by_cases hc : c = '\n'
    · subst hc
      rw [splitWhere, if_pos (by simp)] at h
      have hcount := Markdown.lineCount_append_feed [] cs
      rw [List.nil_append, List.count_nil] at hcount
      cases i with
      | zero => exact absurd (Option.some.inj h).symm hne
      | succ i =>
        have := ih h hne
        omega
    · -- what is not a line feed makes the first line longer and leaves the others as they are
      obtain ⟨first, others, hcs, hsplit⟩ := splitWhere_cons hc cs
      rw [hsplit] at h
      have hfirst := @Markdown.count_take_lt_lineCount (c :: cs) 0 c rfl hc
      cases i with
      | zero => exact Nat.lt_of_le_of_lt (Nat.zero_le _) hfirst
      | succ i =>
        have hlater : (splitWhere (· = '\n') cs)[i + 1]? = some text := by
          rw [hcs]
          exact h
        exact Nat.lt_of_lt_of_le (ih hlater hne) (Markdown.lineCount_le_cons c cs)

end texts

namespace Fence

variable {lines : Lines} {fence : Fence}

/-- The lines of the content of a fence. -/
def texts (fence : Fence) : List (List Char) := splitWhere (· = '\n') fence.content.toList

/-- Is each line of the content the end of the line of the document that it came from? A last line that is
empty need not come from any. -/
def IsAligned (lines : Lines) (fence : Fence) : Prop :=
  ∀ (i : Nat) (text : List Char), fence.texts[i]? = some text →
    (i + 1 = fence.texts.length ∧ text = []) ∨
      ∃ row, lines.row ((fence.first + 1 + i : Nat) : Int) = .ok row ∧ text <:+ row.text.toList

/-- Is a line of the document the end of another text? -/
def endsRow (lines : Lines) (line : Nat) (text : List Char) : Bool :=
  match lines.row line with
  | .ok row => text.isSuffixOf row.text.toList
  | .error _ => false

theorem endsRow_iff {line : Nat} {text : List Char} :
    endsRow lines line text ↔ ∃ row, lines.row line = .ok row ∧ text <:+ row.text.toList := by
  rw [endsRow]
  cases lines.row line with
  | ok row => simp
  | error error => simp

/-- Whether a fence is aligned can be found out line by line. -/
theorem isAligned_iff : fence.IsAligned lines ↔ ∀ i < fence.texts.length,
    (i + 1 = fence.texts.length ∧ fence.texts.getD i [] = []) ∨
      endsRow lines (fence.first + 1 + i) (fence.texts.getD i []) := by
  have hget : ∀ i, (hi : i < fence.texts.length) → fence.texts.getD i [] = fence.texts[i] := by
    intro i hi
    simp [hi]
  constructor
  · intro h i hi
    rw [hget i hi, endsRow_iff]
    exact h i _ (List.getElem?_eq_getElem hi)
  · intro h i text htext
    obtain ⟨hi, rfl⟩ := List.getElem?_eq_some_iff.mp htext
    have hline := h i hi
    rwa [hget i hi, endsRow_iff] at hline

instance : Decidable (fence.IsAligned lines) := decidable_of_iff' _ isAligned_iff

/-- Byte `place` of the document holds byte `offset` of the content: they are the same bytes of a line of
the content and of the line of the document that ends with it. -/
def Holds (lines : Lines) (fence : Fence) (offset place : Nat) : Prop :=
  ∃ (i column : Nat) (row : Row) (indent text : List Char),
    lines.row ((fence.first + 1 + i : Nat) : Int) = .ok row ∧ row.text.toList = indent ++ text ∧
      fence.texts[i]? = some text ∧ column < byteLength text ∧
      offset = textStart fence.texts i + column ∧ place = row.start + byteLength indent + column

theorem texts_ofNode? {node : Node} (h : ofNode? lines node = some fence) :
    fence.lines = placeLines lines (fence.first + 1) 0 fence.texts := by
  obtain ⟨⟨first, last⟩, -, rfl⟩ := Option.map_eq_some_iff.mp h
  rfl

theorem le_inContent {line offset : Nat} {texts : List (List Char)} {start : ContentLine}
    (h : start ∈ placeLines lines line offset texts) : offset ≤ start.inContent := by
  induction texts generalizing line offset with
  | nil => simp [placeLines] at h
  | cons text texts ih =>
    rw [placeLines] at h
    split at h
    · simp at h
    · rcases List.mem_cons.mp h with rfl | h
      · exact Nat.le_refl _
      · have := ih h
        omega

/-- From the end of the list of lines, the first one that starts by an offset is the one it is on. -/
theorem find?_placeLines {line offset i column : Nat} {texts : List (List Char)} {text indent : List Char}
    {row : Row} (hrows : ∀ j ≤ i, ∃ row, lines.row ((line + j : Nat) : Int) = .ok row)
    (hrow : lines.row ((line + i : Nat) : Int) = .ok row) (htext : texts[i]? = some text)
    (hindent : row.text.toList = indent ++ text) (hcolumn : column ≤ byteLength text) :
    (placeLines lines line offset texts).reverse.find?
        (·.inContent ≤ offset + textStart texts i + column) =
      some ⟨offset + textStart texts i, row.start + byteLength indent⟩ := by
  induction texts generalizing line offset i with
  | nil => simp at htext
  | cons first texts ih =>
    obtain ⟨front, hfront⟩ := hrows 0 (Nat.zero_le _)
    rw [Nat.add_zero] at hfront
    rw [placeLines, hfront]
    simp only [List.reverse_cons, List.find?_append]
    cases i with
    | zero =>
      obtain rfl : front = row := Except.ok.inj (hfront.symm.trans hrow)
      obtain rfl : first = text := by simpa using htext
      -- all later lines start behind the offset, which is on the first one
      have hnone : (placeLines lines (line + 1) (offset + byteLength first + 1) texts).reverse.find?
          (·.inContent ≤ offset + textStart (first :: texts) 0 + column) = none := by
        refine List.find?_eq_none.mpr fun start hstart => ?_
        have := le_inContent (List.mem_reverse.mp hstart)
        rw [textStart_zero, decide_eq_true_eq]
        omega
      rw [hnone]
      simp [indentOf, hindent]
    | succ i =>
      have hlater : (placeLines lines (line + 1) (offset + byteLength first + 1) texts).reverse.find?
          (·.inContent ≤ offset + textStart (first :: texts) (i + 1) + column) =
            some ⟨offset + textStart (first :: texts) (i + 1), row.start + byteLength indent⟩ := by
        rw [textStart_cons_succ, ← Nat.add_assoc, ← Nat.add_assoc]
        refine ih (fun j hj => ?_) ?_ (by simpa using htext)
        · have := hrows (j + 1) (by omega)
          rwa [show line + 1 + j = line + (j + 1) by omega]
        · rwa [show line + 1 + i = line + (i + 1) by omega]
      rw [hlater]
      rfl

/-- The lines of an aligned content up to one that is not empty come from lines of the document. -/
theorem IsAligned.exists_row (haligned : fence.IsAligned lines) {i j : Nat} {text : List Char}
    (htext : fence.texts[i]? = some text) (hne : text ≠ []) (hj : j ≤ i) :
    ∃ row, lines.row ((fence.first + 1 + j : Nat) : Int) = .ok row := by
  obtain ⟨hi, rfl⟩ := List.getElem?_eq_some_iff.mp htext
  rcases haligned j _ (List.getElem?_eq_getElem (by omega)) with ⟨hlast, hnil⟩ | ⟨row, hrow, -⟩
  · obtain rfl : i = j := by omega
    exact absurd hnil hne
  · exact ⟨row, hrow⟩

/-- Characters of an aligned content without a line feed among them stand on one line of the document. -/
theorem exists_row_of_append (haligned : fence.IsAligned lines) {before middle after : List Char}
    (hcontent : fence.content.toList = before ++ (middle ++ after)) (hne : middle ≠ [])
    (hmiddle : '\n' ∉ middle) :
    ∃ i row indent front back, lines.row ((fence.first + 1 + i : Nat) : Int) = .ok row ∧
      row.text.toList = indent ++ (front ++ (middle ++ back)) ∧
      fence.texts[i]? = some (front ++ (middle ++ back)) ∧
      byteLength before = textStart fence.texts i + byteLength front := by
  obtain ⟨front, back, hline, hbytes⟩ := exists_line_of_append before middle after hmiddle
  rw [← hcontent, ← texts] at hline hbytes
  rcases haligned _ _ hline with ⟨-, hnil⟩ | ⟨row, hrow, indent, hindent⟩
  · simp [hne] at hnil
  · exact ⟨_, row, indent, front, back, hrow, hindent.symm, hline, hbytes⟩

/-- Every byte of such characters is held by the document. -/
theorem exists_holds (haligned : fence.IsAligned lines) {before middle after : List Char}
    (hcontent : fence.content.toList = before ++ (middle ++ after)) (hmiddle : '\n' ∉ middle) {byte : Nat}
    (hbyte : byte < byteLength middle) :
    ∃ place, fence.Holds lines (byteLength before + byte) place := by
  have hne : middle ≠ [] := byteLength_pos_iff.mp (Nat.zero_lt_of_lt hbyte)
  obtain ⟨i, row, indent, front, back, hrow, hindent, htext, hbytes⟩ :=
    exists_row_of_append haligned hcontent hne hmiddle
  refine ⟨_, i, byteLength front + byte, row, indent, _, hrow, hindent, htext, ?_, ?_, rfl⟩
  · rw [byteLength_append, byteLength_append]
    omega
  · rw [hbytes]
    exact Nat.add_assoc _ _ _

/-- Characters that start and end with something else than a line feed have their first byte and their last
byte held. -/
theorem exists_holds_ends (haligned : fence.IsAligned lines) {before middle after : List Char} {c d : Char}
    (hcontent : fence.content.toList = before ++ (middle ++ after)) (hc : middle.head? = some c)
    (hcline : c ≠ '\n') (hd : middle.getLast? = some d) (hdline : d ≠ '\n') :
    ∃ start last, fence.Holds lines (byteLength before) start ∧
      fence.Holds lines (byteLength before + byteLength middle - 1) last := by
  obtain ⟨rest, hrest⟩ := List.head?_eq_some_iff.mp hc
  obtain ⟨front, hfront⟩ := List.getLast?_eq_some_iff.mp hd
  have hstartContent : fence.content.toList = before ++ ([c] ++ (rest ++ after)) := by
    rw [hcontent, hrest]
    rfl
  have hlastContent : fence.content.toList = (before ++ front) ++ ([d] ++ after) := by
    rw [hcontent, hfront, List.append_assoc, List.append_assoc]
  have hdpos : 0 < byteLength [d] := byteLength_pos_iff.mpr (List.cons_ne_nil d [])
  -- the first byte of the first character and the last byte of the last one
  obtain ⟨start, hstart⟩ := exists_holds haligned hstartContent (by simpa using hcline.symm)
    (byteLength_pos_iff.mpr (List.cons_ne_nil c []))
  obtain ⟨last, hlast⟩ := exists_holds haligned hlastContent (by simpa using hdline.symm)
    (Nat.sub_one_lt_of_lt hdpos)
  refine ⟨start, last, hstart, ?_⟩
  rwa [hfront, byteLength_append, ← Nat.add_assoc, ← byteLength_append before front,
    Nat.add_sub_assoc hdpos]

variable {offset offset' place place' : Nat}

/-- A byte that is held is found where it is held, and so is the place behind it. -/
theorem Holds.offset?_eq (haligned : fence.IsAligned lines)
    (hlines : fence.lines = placeLines lines (fence.first + 1) 0 fence.texts)
    (h : fence.Holds lines offset place) :
    fence.offset? offset = some place ∧ fence.offset? (offset + 1) = some (place + 1) := by
  obtain ⟨i, column, row, indent, text, hrow, hindent, htext, hcolumn, rfl, rfl⟩ := h
  have hne : text ≠ [] := byteLength_pos_iff.mp (Nat.zero_lt_of_lt hcolumn)
  have hfind : ∀ c ≤ byteLength text, fence.offset? (textStart fence.texts i + c) =
      some (row.start + byteLength indent + c) := by
    intro c hc
    have hrows : ∀ j ≤ i, ∃ row, lines.row ((fence.first + 1 + j : Nat) : Int) = .ok row :=
      fun j hj => haligned.exists_row htext hne hj
    have hfound := @find?_placeLines lines (fence.first + 1) 0 i c fence.texts text indent row hrows hrow
      htext hindent hc
    rw [Nat.zero_add] at hfound
    rw [Fence.offset?, hlines, hfound]
    simp
  exact ⟨hfind _ (by omega), hfind (column + 1) hcolumn⟩

/-- Bytes with both of their ends held are found. -/
theorem span?_eq_some (haligned : fence.IsAligned lines)
    (hlines : fence.lines = placeLines lines (fence.first + 1) 0 fence.texts) {span : Span}
    (hpos : 0 < span.stop) (hstart : fence.Holds lines span.start place)
    (hlast : fence.Holds lines (span.stop - 1) place') :
    fence.span? span = some ⟨place, place' + 1⟩ := by
  have hbehind := (hlast.offset?_eq haligned hlines).2
  rw [Nat.sub_add_cancel hpos] at hbehind
  simp [span?, (hstart.offset?_eq haligned hlines).1, hbehind]

theorem toList_text (row : Row) : row.text.toList = Row.dropReturn row.chars := String.toList_ofList

/-- The row on which a byte is held: it is one of those below the first line of the fence, of which there
are as many as the content has lines. -/
theorem Holds.exists_row (h : fence.Holds lines offset place) :
    ∃ k row, fence.first ≤ k ∧ k < fence.first + Markdown.lineCount fence.content.toList ∧
      lines.rowList[k]? = some row ∧ row.start ≤ place ∧ place < row.span.stop := by
  obtain ⟨i, column, row, indent, text, hrow, hindent, htext, hcolumn, rfl, rfl⟩ := h
  have hne : text ≠ [] := byteLength_pos_iff.mp (Nat.zero_lt_of_lt hcolumn)
  refine ⟨fence.first + i, row, Nat.le_add_right _ _, Nat.add_lt_add_left (lt_lineCount htext hne) _,
    Lines.getElem?_of_row ?_, by omega, ?_⟩
  · rwa [show ((fence.first + i : Nat) : Int) + 1 = ((fence.first + 1 + i : Nat) : Int) by omega]
  · rw [Row.span, ← toList_text, hindent, byteLength_append]
    dsimp only
    omega

/-- A byte is held behind the start of the first line of the fence. -/
theorem Holds.first_le (h : fence.Holds lines offset place) {k : Nat} {row : Row} (hk : k < fence.first)
    (hrow : lines.rowList[k]? = some row) : row.start ≤ place := by
  obtain ⟨i, heldRow, hi, -, hheld, hle, -⟩ := h.exists_row
  exact Nat.le_trans (lines.tiles.start_le (Nat.le_trans (Nat.le_of_lt hk) hi) hrow hheld) hle

/-- The place behind a byte that is held lies on the line of the byte. -/
theorem Holds.exists_line (h : fence.Holds lines offset place) :
    ∃ line, lines.lineOf place = .ok line ∧ lines.lineOf (place + 1 : Nat) = .ok line := by
  obtain ⟨i, row, -, -, hrow, hle, hlt⟩ := h.exists_row
  have hstop : row.span.stop = row.start + byteLength (Row.dropReturn row.chars) := rfl
  have hreturn := Row.byteLength_dropReturn_le row.chars
  have hsize := Lines.stop_le_size hrow
  exact ⟨i + 1, Lines.lineOf_of_le hrow hle (by omega) (by omega),
    Lines.lineOf_of_le hrow (by omega) (by omega) (by omega)⟩

/-- The bytes of the content are held in their order. -/
theorem Holds.le (h : fence.Holds lines offset place) (h' : fence.Holds lines offset' place')
    (hle : offset ≤ offset') : place ≤ place' := by
  obtain ⟨i, column, row, indent, text, hrow, hindent, htext, hcolumn, rfl, rfl⟩ := h
  obtain ⟨j, column', row', indent', text', hrow', hindent', htext', hcolumn', rfl, rfl⟩ := h'
  rcases Nat.lt_trichotomy i j with hij | rfl | hji
  · -- an earlier line of the document
    have hfirst : lines.rowList[fence.first + i]? = some row := Lines.getElem?_of_row (by
      rwa [show ((fence.first + i : Nat) : Int) + 1 = ((fence.first + 1 + i : Nat) : Int) by omega])
    have hsecond : lines.rowList[fence.first + j]? = some row' := Lines.getElem?_of_row (by
      rwa [show ((fence.first + j : Nat) : Int) + 1 = ((fence.first + 1 + j : Nat) : Int) by omega])
    have hlt := lines.tiles.stop_lt (Nat.add_lt_add_left hij fence.first) hfirst hsecond
    have hreturn := Row.byteLength_dropReturn_le row.chars
    rw [← toList_text, hindent, byteLength_append] at hreturn
    omega
  · -- on one line, both come behind the same indentation
    obtain rfl : text = text' := Option.some.inj (htext.symm.trans htext')
    obtain rfl : row = row' := Except.ok.inj (hrow.symm.trans hrow')
    have := congrArg byteLength (hindent.symm.trans hindent')
    rw [byteLength_append, byteLength_append] at this
    omega
  · -- an earlier line of the content would hold the earlier offset
    have := textStart_lt hji htext'
    omega

end Fence

end ProposalCheck

import ProposalCheck.Proofs.Source.Rows

/-!
# Slices of a text

An offset is a boundary of a text if it lies between two characters or at an end. Between boundaries a text
can be cut, and what is cut out is what stands between them. The text of a row stands at the span of the row.

## Main definitions

* `IsBoundary`: an offset at which a text can be cut
* `Span.Covers`: a range holds exactly some characters
* `Span.IsWithin`: a range of a text that begins and ends at boundaries

## Main results

* `dropBytes?_append`, `takeBytes?_append`: cutting a text
* `Lines.slice_eq`: a slice is what stands between its ends
* `Lines.slice_row`: the slice at the span of a row is the text of the row
-/

namespace ProposalCheck

variable {cs before middle after : List Char} {offset : Nat}

/-! ### Boundaries -/

/-- Does an offset lie between two characters, or at an end? -/
def IsBoundary (cs : List Char) (offset : Nat) : Prop :=
  ∃ before after, cs = before ++ after ∧ byteLength before = offset

theorem isBoundary_zero (cs : List Char) : IsBoundary cs 0 := ⟨[], cs, rfl, rfl⟩

theorem isBoundary_byteLength (cs : List Char) : IsBoundary cs (byteLength cs) :=
  ⟨cs, [], (List.append_nil cs).symm, rfl⟩

theorem IsBoundary.le (h : IsBoundary cs offset) : offset ≤ byteLength cs := by
  obtain ⟨before, after, rfl, rfl⟩ := h
  rw [byteLength_append]
  exact Nat.le_add_right _ _

/-- Of two ways to cut a text, the later one cuts what the earlier one leaves. -/
theorem exists_gap_of_append_eq {cs ds front back : List Char} (h : cs ++ ds = front ++ back)
    (hle : byteLength cs ≤ byteLength front) : ∃ gap, front = cs ++ gap ∧ ds = gap ++ back := by
  rcases List.append_eq_append_iff.mp h with hgap | ⟨gap, rfl, rfl⟩
  · exact hgap
  · have hnil : gap = [] := by
      cases gap with
      | nil => rfl
      | cons c gap =>
        have hpos := c.utf8Size_pos
        rw [byteLength_append, byteLength] at hle
        omega
    subst hnil
    exact ⟨[], by simp, rfl⟩

/-- Behind some characters, a boundary of a text is one of the rest. -/
theorem IsBoundary.exists_split {rest : List Char} (h : IsBoundary (before ++ rest) offset)
    (hle : byteLength before ≤ offset) :
    ∃ middle after, rest = middle ++ after ∧ byteLength before + byteLength middle = offset := by
  obtain ⟨front, back, heq, rfl⟩ := h
  obtain ⟨middle, rfl, hrest⟩ := exists_gap_of_append_eq heq hle
  exact ⟨middle, back, hrest, (byteLength_append _ _).symm⟩

/-- A range of a text that holds exactly the characters `part`. -/
def Span.Covers (range : Span) (cs part : List Char) : Prop :=
  ∃ before after, cs = before ++ (part ++ after) ∧
    range = ⟨byteLength before, byteLength before + byteLength part⟩

theorem Span.covers_append (before part after : List Char) :
    Span.Covers ⟨byteLength before, byteLength before + byteLength part⟩ (before ++ (part ++ after)) part :=
  ⟨before, after, rfl, rfl⟩

/-- A range lies within a text and begins and ends between characters. -/
structure Span.IsWithin (range : Span) (text : String) : Prop where
  le : range.start ≤ range.stop
  stop_le : range.stop ≤ text.utf8ByteSize
  start : IsBoundary text.toList range.start
  stop : IsBoundary text.toList range.stop

theorem Span.isWithin_of_isBoundary {text : String} {start stop : Nat} (hle : start ≤ stop)
    (hstart : IsBoundary text.toList start) (hstop : IsBoundary text.toList stop) :
    Span.IsWithin ⟨start, stop⟩ text :=
  ⟨hle, byteLength_toList text ▸ hstop.le, hstart, hstop⟩

/-- What stands at a range begins and ends between characters. -/
theorem Span.Covers.isWithin {range : Span} {text : String} {part : List Char}
    (h : range.Covers text.toList part) : range.IsWithin text := by
  obtain ⟨before, after, hsplit, rfl⟩ := h
  refine Span.isWithin_of_isBoundary (Nat.le_add_right _ _) ⟨before, part ++ after, hsplit, rfl⟩ ?_
  exact ⟨before ++ part, after, by rw [hsplit, List.append_assoc], byteLength_append _ _⟩

/-! ### Cutting -/

theorem dropBytes?_append (before after : List Char) :
    dropBytes? (byteLength before) (before ++ after) = some after := by
  induction before with
  | nil => cases after <;> rfl
  | cons c before ih =>
    have hpos := c.utf8Size_pos
    rw [List.cons_append, dropBytes?, byteLength, if_neg (by omega), if_pos (Nat.le_add_right _ _),
      Nat.add_sub_cancel_left, ih]

theorem takeBytes?_append (before after : List Char) :
    takeBytes? (byteLength before) (before ++ after) = some before := by
  induction before with
  | nil => cases after <;> rfl
  | cons c before ih =>
    have hpos := c.utf8Size_pos
    rw [List.cons_append, takeBytes?, byteLength, if_neg (by omega), if_pos (Nat.le_add_right _ _),
      Nat.add_sub_cancel_left, ih]
    rfl

namespace Lines

variable {lines : Lines}

theorem clampOffset_of_le {size offset : Nat} (h : offset ≤ size) : clampOffset size offset = offset := by
  rw [clampOffset, if_neg (by omega), Int.toNat_natCast]
  exact Nat.min_eq_right h

/-- What stands between two boundaries of a text is the slice between them. -/
theorem slice_eq (h : lines.source.toList = before ++ (middle ++ after)) :
    lines.slice (byteLength before) ((byteLength before + byteLength middle : Nat) : Int) =
      .ok (String.ofList middle) := by
  have hsize : lines.size = byteLength before + (byteLength middle + byteLength after) := by
    rw [size, ← byteLength_toList, h, byteLength_append, byteLength_append]
  rw [slice, clampOffset_of_le (by omega), clampOffset_of_le (by omega)]
  split_ifs with hempty
  · have hnil : middle = [] := by
      cases middle with
      | nil => rfl
      | cons c middle =>
        have hpos := c.utf8Size_pos
        rw [byteLength] at hempty
        omega
    rw [hnil]
  · rw [h, dropBytes?_append, Option.bind_some, Nat.add_sub_cancel_left, takeBytes?_append]

/-- A range of a text that begins and ends between characters is what its slice covers. -/
theorem exists_slice {span : Span} (h : span.IsWithin lines.source) :
    ∃ text, lines.slice span.start span.stop = .ok text ∧ span.Covers lines.source.toList text.toList := by
  obtain ⟨start, stop⟩ := span
  obtain ⟨before, rest, hsource, rfl⟩ := h.start
  obtain ⟨middle, after, rfl, rfl⟩ := (hsource ▸ h.stop).exists_split h.le
  refine ⟨_, slice_eq hsource, ?_⟩
  rw [hsource, String.toList_ofList]
  exact Span.covers_append before middle after

/-- The characters of a row stand where it starts, and a line feed or nothing follows them. -/
theorem exists_source_eq {k : Nat} {row : Row} (h : lines.rowList[k]? = some row) :
    ∃ before after, lines.source.toList = before ++ (row.chars ++ after) ∧ byteLength before = row.start ∧
      (after = [] ∨ after.head? = some '\n') := by
  obtain ⟨hk, rfl⟩ := List.getElem?_eq_some_iff.mp h
  obtain ⟨before, rest, hsource, hstart, htiles⟩ := tiles_drop h
  rw [List.drop_eq_getElem_cons hk] at htiles
  generalize lines.rowList[k] = row, lines.rowList.drop (k + 1) = others at *
  obtain ⟨start, chars⟩ := row
  cases htiles with
  | last => exact ⟨before, [], by rw [hsource, List.append_nil], hstart.symm, .inl rfl⟩
  | feed => exact ⟨before, _, hsource, hstart.symm, .inr rfl⟩

/-- The text of a row stands at its span. -/
theorem row_covers {k : Nat} {row : Row} (h : lines.rowList[k]? = some row) :
    row.span.Covers lines.source.toList row.text.toList := by
  obtain ⟨before, after, hsource, hstart, -⟩ := exists_source_eq h
  obtain ⟨tail, heq⟩ := Row.exists_append_of_dropReturn row.chars
  rw [heq, List.append_assoc] at hsource
  rw [Row.text, String.toList_ofList]
  exact ⟨before, tail ++ after, hsource, by rw [Row.span, hstart]⟩

/-- The text of a row is the slice at its span. -/
theorem slice_row {k : Nat} {row : Row} (h : lines.rowList[k]? = some row) :
    lines.slice row.span.start row.span.stop = .ok row.text := by
  obtain ⟨before, after, hsource, hspan⟩ := row_covers h
  rw [hspan, slice_eq hsource, String.ofList_toList]

end Lines

/-! ### Rows of a text that is written -/

namespace Row

variable {start : Nat} {rest : List Char} {rows : List Row}

theorem ofChars_of_not_mem (start : Nat) (h : '\n' ∉ cs) : ofChars start cs = [⟨start, cs⟩] := by
  induction cs generalizing start with
  | nil => rfl
  | cons c cs ih =>
    rw [List.mem_cons, not_or] at h
    rw [ofChars, if_neg (Ne.symm h.1), ih _ h.2]

/-- The characters up to the first line feed are the first row. -/
theorem ofChars_append_feed (h : '\n' ∉ cs) (rest : List Char) :
    ofChars start (cs ++ '\n' :: rest) = ⟨start, cs⟩ :: ofChars (start + byteLength cs + 1) rest := by
  induction cs generalizing start with
  | nil => simp [ofChars, byteLength]
  | cons c cs ih =>
    rw [List.mem_cons, not_or] at h
    rw [List.cons_append, ofChars, if_neg (Ne.symm h.1), ih h.2, byteLength, ← Nat.add_assoc start]

/-- The rows of a text, joined by line feeds, are the text. -/
theorem Tiles.intercalate_chars (h : Tiles start cs rows) : "\n".toList.intercalate (rows.map (·.chars)) = cs := by
  induction h with
  | last => simp
  | @feed start cs rest rows _ htail ih =>
    obtain ⟨row, hrow, -⟩ := htail.head
    have hne : rows.map (·.chars) ≠ [] := by
      intro hnil
      rw [List.map_eq_nil_iff.mp hnil] at hrow
      cases hrow
    rw [List.map_cons, List.intercalate_cons_of_ne_nil hne, ih]
    simp

end Row

end ProposalCheck

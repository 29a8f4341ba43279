import ProposalCheck.Proofs.Text.Bytes
import ProposalCheck.Source.Lines

/-!
# The rows of a text

The rows of a text tile it: each row holds the characters up to the next line feed, and the next row
starts just after that. So rows can be looked up by number and by offset, and from any row on the rest
of the text is tiled by the rest of the rows.

## Main definitions

* `Row.Tiles`: rows that tile a text from some offset on

## Main results

* `Row.tiles_ofChars`: the rows of a text tile it
* `Row.Tiles.suffix`: the rows from some row on tile the rest of the text
* `Row.Tiles.pairwise`: rows start one after the other
* `Row.Tiles.countP_spec`: the row in which an offset lies
* `Lines.lineOf_spec`: the same for the lookup by offset
* `Lines.mapM_row_range`: the lookup of several rows
-/

namespace ProposalCheck

/-! ### Steps that may fail -/

/-- Two steps give a result if the first gives one from which the second gives it. -/
theorem exists_of_bind_eq_ok {ε α β : Type} {first : Except ε α} {second : α → Except ε β} {result : β}
    (h : first >>= second = .ok result) : ∃ a, first = .ok a ∧ second a = .ok result := by
  cases first with
  | error e => cases h
  | ok a => exact ⟨a, rfl, h⟩

theorem exists_of_map_eq_ok {ε α β : Type} {f : α → β} {first : Except ε α} {result : β}
    (h : first.map f = .ok result) : ∃ a, first = .ok a ∧ f a = result := by
  cases first with
  | error e => cases h
  | ok a => exact ⟨a, rfl, Except.ok.inj h⟩

theorem mapM_eq_ok {ε α β : Type} {f : α → Except ε β} {g : α → β} {items : List α}
    (h : ∀ item ∈ items, f item = .ok (g item)) : items.mapM f = .ok (items.map g) := by
  induction items with
  | nil => rfl
  | cons item items ih =>
    rw [List.mapM_cons, h item List.mem_cons_self, ih fun other hother => h other (List.mem_cons_of_mem _ hother)]
    rfl

/-- A computation that succeeds for each item of a list succeeds for the list. -/
theorem exists_mapM_eq_ok {ε α β : Type} {f : α → Except ε β} {R : α → β → Prop} {items : List α}
    (h : ∀ item ∈ items, ∃ result, f item = .ok result ∧ R item result) :
    ∃ results, items.mapM f = .ok results ∧ List.Forall₂ R items results := by
  induction items with
  | nil => exact ⟨[], rfl, .nil⟩
  | cons item items ih =>
    obtain ⟨result, hresult, hrel⟩ := h item List.mem_cons_self
    obtain ⟨results, hresults, hrels⟩ := ih fun other hother => h other (List.mem_cons_of_mem _ hother)
    exact ⟨result :: results, by simp [List.mapM_cons, hresult, hresults, bind, Except.bind, pure, Except.pure],
      .cons hrel hrels⟩

/-- What is related to something has all properties that the relation gives. -/
theorem forall_of_forall₂ {α β : Type} {R : α → β → Prop} {p : β → Prop} {items : List α} {results : List β}
    (h : List.Forall₂ R items results) (hp : ∀ item result, R item result → p result) :
    ∀ result ∈ results, p result := by
  induction h with
  | nil => simp
  | cons hrel _ ih => exact List.forall_mem_cons.mpr ⟨hp _ _ hrel, ih⟩

namespace Row

variable {start offset : Nat} {cs : List Char} {rows : List Row}

/-- `rows` tile `cs`, the first character of which has the offset `start`. -/
inductive Tiles : Nat → List Char → List Row → Prop
  | last {start : Nat} {cs : List Char} : '\n' ∉ cs → Tiles start cs [⟨start, cs⟩]
  | feed {start : Nat} {cs rest : List Char} {rows : List Row} : '\n' ∉ cs →
      Tiles (start + byteLength cs + 1) rest rows →
      Tiles start (cs ++ '\n' :: rest) (⟨start, cs⟩ :: rows)

theorem tiles_ofChars (start : Nat) (cs : List Char) : Tiles start cs (ofChars start cs) := by
  induction cs generalizing start with
  | nil => exact .last List.not_mem_nil
  | cons c cs ih =>
    rw [ofChars]
    split_ifs with hc
    · subst hc
      exact Tiles.feed List.not_mem_nil (ih (start + 1))
    · -- the first row of the rest gets one more character in front
      have hrest := ih (start + c.utf8Size)
      revert hrest
      generalize ofChars (start + c.utf8Size) cs = rows
      intro hrest
      cases hrest with
      | last hfree => exact .last (by simp [hfree, Ne.symm hc])
      | feed hfree htail =>
        rw [← List.cons_append]
        refine .feed (by simp [hfree, Ne.symm hc]) ?_
        rwa [byteLength, ← Nat.add_assoc start]

theorem Tiles.newline_not_mem (h : Tiles start cs rows) : ∀ row ∈ rows, '\n' ∉ row.chars := by
  induction h with
  | last hfree => simpa using hfree
  | feed hfree _ ih =>
    intro row hrow
    rcases List.mem_cons.mp hrow with rfl | hrow
    · exact hfree
    · exact ih row hrow

/-- There is one row more than there are line feeds. -/
theorem Tiles.length_eq (h : Tiles start cs rows) : rows.length = cs.count '\n' + 1 := by
  induction h with
  | last hfree => rw [List.count_eq_zero.mpr hfree]; rfl
  | feed hfree _ ih =>
    rw [List.length_cons, ih, List.count_append, List.count_cons_self, List.count_eq_zero.mpr hfree]
    omega

/-- The first row starts where the text does. -/
theorem Tiles.head (h : Tiles start cs rows) : ∃ row, rows[0]? = some row ∧ row.start = start := by
  cases h with
  | last => exact ⟨_, rfl, rfl⟩
  | feed => exact ⟨_, rfl, rfl⟩

theorem Tiles.le_start (h : Tiles start cs rows) : ∀ row ∈ rows, start ≤ row.start := by
  induction h with
  | last => simp
  | feed _ _ ih =>
    intro row hrow
    rcases List.mem_cons.mp hrow with rfl | hrow
    · exact Nat.le_refl _
    · have := ih row hrow
      omega

/-- Rows start one after the other. -/
theorem Tiles.pairwise (h : Tiles start cs rows) : rows.Pairwise (·.start < ·.start) := by
  induction h with
  | last => simp
  | feed _ htail ih =>
    refine List.pairwise_cons.mpr ⟨fun row hrow => ?_, ih⟩
    have := htail.le_start row hrow
    dsimp only
    omega

theorem Tiles.start_le {i j : Nat} {row later : Row} (h : Tiles start cs rows) (hij : i ≤ j)
    (hrow : rows[i]? = some row) (hlater : rows[j]? = some later) : row.start ≤ later.start := by
  obtain ⟨hi, rfl⟩ := List.getElem?_eq_some_iff.mp hrow
  obtain ⟨hj, rfl⟩ := List.getElem?_eq_some_iff.mp hlater
  rcases Nat.eq_or_lt_of_le hij with rfl | hlt
  · exact Nat.le_refl _
  · exact Nat.le_of_lt (List.pairwise_iff_getElem.mp h.pairwise i j hi hj hlt)

/-- A row ends before the next one starts. -/
theorem Tiles.stop_lt {i j : Nat} {row later : Row} (h : Tiles start cs rows) (hij : i < j)
    (hrow : rows[i]? = some row) (hlater : rows[j]? = some later) :
    row.start + byteLength row.chars < later.start := by
  induction h generalizing i j with
  | last =>
    obtain ⟨hj, -⟩ := List.getElem?_eq_some_iff.mp hlater
    simp only [List.length_singleton] at hj
    omega
  | @feed start cs rest rows hfree htail ih =>
    obtain ⟨j, rfl⟩ : ∃ k, j = k + 1 := ⟨j - 1, by omega⟩
    rw [List.getElem?_cons_succ] at hlater
    cases i with
    | zero =>
      obtain rfl : ⟨start, cs⟩ = row := by simpa using hrow
      have := htail.le_start later (List.mem_of_getElem? hlater)
      dsimp only
      omega
    | succ i =>
      rw [List.getElem?_cons_succ] at hrow
      exact ih (Nat.lt_of_succ_lt_succ hij) hrow hlater

/-- From any row on, the rest of the text is tiled by the rest of the rows. -/
theorem Tiles.suffix {before after : List Row} {row : Row}
    (h : Tiles start cs (before ++ row :: after)) :
    ∃ pre rest, cs = pre ++ rest ∧ row.start = start + byteLength pre ∧
      Tiles row.start rest (row :: after) := by
  induction before generalizing start cs with
  | nil =>
    refine ⟨[], cs, rfl, ?_⟩
    cases h with
    | last hfree => exact ⟨rfl, .last hfree⟩
    | feed hfree htail => exact ⟨rfl, .feed hfree htail⟩
  | cons first before ih =>
    rw [List.cons_append] at h
    -- the first row is not the last one, so it is the rest of the tiling that ends with the rows
    generalize hrows : before ++ row :: after = rows at h ih
    cases h with
    | last => simp at hrows
    | @feed _ chars rest _ hfree htail =>
      subst hrows
      obtain ⟨pre, rest', rfl, hstart, htiles⟩ := ih htail
      refine ⟨chars ++ '\n' :: pre, rest', by simp, ?_, htiles⟩
      rw [hstart, byteLength_append, byteLength_feed]
      omega

/-- The number of rows that start by some offset is the number of the row in which it lies. -/
theorem Tiles.countP_spec (h : Tiles start cs rows) (hle : start ≤ offset) :
    ∃ k row, rows.countP (fun row => row.start ≤ offset) = k + 1 ∧ rows[k]? = some row ∧
      row.start ≤ offset ∧ ∀ next, rows[k + 1]? = some next → offset < next.start := by
  induction h with
  | @last start cs => exact ⟨0, ⟨start, cs⟩, by simp [hle], rfl, hle, by simp⟩
  | @feed start cs rest rows hfree htail ih =>
    by_cases hnext : start + byteLength cs + 1 ≤ offset
    · obtain ⟨k, row, hcount, hrow, hbefore, hafter⟩ := ih hnext
      exact ⟨k + 1, row, by simp [hle, hcount], hrow, hbefore, hafter⟩
    · have hnone : rows.countP (fun row => row.start ≤ offset) = 0 := by
        rw [List.countP_eq_zero]
        intro row hrow
        have := htail.le_start row hrow
        simp only [decide_eq_true_eq]
        omega
      refine ⟨0, ⟨start, cs⟩, by simp [hle, hnone], rfl, hle, fun next hnext' => ?_⟩
      have := htail.le_start next (List.mem_of_getElem? hnext')
      omega

/-! ### The text of a row -/

/-- A row is its text, with one carriage return after it or not. -/
theorem dropReturn_cases (cs : List Char) :
    (dropReturn cs = cs ∧ cs.getLast? ≠ some '\r') ∨ cs = dropReturn cs ++ ['\r'] := by
  rw [dropReturn]
  split_ifs with h
  · right
    obtain ⟨init, rfl⟩ := List.getLast?_eq_some_iff.mp h
    simp
  · exact .inl ⟨rfl, h⟩

theorem exists_append_of_dropReturn (cs : List Char) : ∃ tail, cs = dropReturn cs ++ tail := by
  rcases dropReturn_cases cs with ⟨heq, -⟩ | heq
  · exact ⟨[], by rw [heq, List.append_nil]⟩
  · exact ⟨_, heq⟩

theorem byteLength_dropReturn_le (cs : List Char) : byteLength (dropReturn cs) ≤ byteLength cs := by
  obtain ⟨tail, heq⟩ := exists_append_of_dropReturn cs
  conv_rhs => rw [heq, byteLength_append]
  exact Nat.le_add_right _ _

theorem newline_not_mem_text {row : Row} (h : '\n' ∉ row.chars) : '\n' ∉ row.text.toList := by
  obtain ⟨tail, heq⟩ := exists_append_of_dropReturn row.chars
  rw [text, String.toList_ofList]
  rw [heq] at h
  exact fun hmem => h (List.mem_append_left _ hmem)

/-- The bytes of the text of a row. -/
def bytes (row : Row) : List UInt8 := charBytes (dropReturn row.chars)

theorem length_bytes (row : Row) : row.bytes.length = row.span.stop - row.span.start := by
  rw [bytes, length_charBytes, span, Nat.add_sub_cancel_left]

theorem textBytes_text (row : Row) : textBytes row.text = row.bytes := textBytes_ofList _

/-- The bytes of the texts of rows, with a line feed after each. -/
def joined (rows : List Row) : List UInt8 := rows.flatMap fun row => row.bytes ++ [10]

theorem length_joined (rows : List Row) : (joined rows).length =
    (rows.map fun row => row.span.stop - row.span.start + 1).foldr (· + ·) 0 := by
  induction rows with
  | nil => rfl
  | cons row rows ih =>
    rw [joined, List.flatMap_cons, ← joined, List.length_append, ih, List.length_append, length_bytes]
    rfl

/-- Where several texts are joined by line feeds, the text of a row comes after the earlier ones. -/
theorem joined_append_bytes_prefix {k : Nat} {row : Row} (h : rows[k]? = some row) :
    joined (rows.take k) ++ row.bytes <+: textBytes ("\n".intercalate (rows.map text)) := by
  induction rows generalizing k with
  | nil => simp at h
  | cons first rest ih =>
    cases k with
    | zero =>
      obtain rfl : first = row := by simpa using h
      rcases List.eq_nil_or_concat rest with rfl | ⟨init, last, rfl⟩
      · simp [joined, textBytes_text]
      · rw [List.map_cons, String.intercalate_cons_of_ne_nil (by simp), textBytes_append,
          textBytes_append, textBytes_text, List.append_assoc]
        exact List.prefix_append _ _
    | succ k =>
      have hrest : rest[k]? = some row := by simpa using h
      have hne : rest.map text ≠ [] := by
        rintro hnil
        simp [List.map_eq_nil_iff.mp hnil] at hrest
      rw [List.map_cons, String.intercalate_cons_of_ne_nil hne, textBytes_append, textBytes_append,
        textBytes_text, List.take_succ_cons, joined, List.flatMap_cons, ← joined, List.append_assoc,
        show textBytes "\n" = [10] from textBytes_ofList ['\n']]
      exact (List.prefix_append_right_inj _).mpr (ih hrest)

end Row

namespace Lines

variable (lines : Lines) {α : Type}

/-- The rows of a text in a list. -/
def rowList : List Row := lines.rows.toList

theorem tiles : Row.Tiles 0 lines.source.toList lines.rowList := by
  rw [rowList, lines.rows_eq]
  exact Row.tiles_ofChars 0 _

theorem length_rowList : lines.rowList.length = lines.count := rfl

variable {lines}

theorem row_of_getElem? {k : Nat} {row : Row} (h : lines.rowList[k]? = some row) :
    lines.row ((k : Int) + 1) = .ok row := by
  have hpos : ¬((k : Int) + 1 < 1) := by omega
  have hindex : ((k : Int) + 1).toNat - 1 = k := by omega
  rw [Lines.row, if_neg hpos, hindex, ← Array.getElem?_toList, ← rowList, h]

theorem getElem?_of_row {k : Nat} {row : Row} (h : lines.row ((k : Int) + 1) = .ok row) :
    lines.rowList[k]? = some row := by
  have hpos : ¬((k : Int) + 1 < 1) := by omega
  have hindex : ((k : Int) + 1).toNat - 1 = k := by omega
  rw [Lines.row, if_neg hpos, hindex, ← Array.getElem?_toList, ← rowList] at h
  split at h
  · rename_i found hfound
    obtain rfl := Except.ok.inj h
    exact hfound
  · cases h

/-- What is looked up by number is one of the rows. -/
theorem exists_of_row {line : Nat} {row : Row} (h : lines.row line = .ok row) :
    ∃ k, line = k + 1 ∧ lines.rowList[k]? = some row := by
  cases line with
  | zero => cases h
  | succ k =>
    rw [Int.natCast_add, Int.natCast_one] at h
    exact ⟨k, rfl, getElem?_of_row h⟩

theorem lineSpan_of_getElem? {k : Nat} {row : Row} (h : lines.rowList[k]? = some row) :
    lines.lineSpan ((k : Int) + 1) = .ok row.span := by
  rw [Lines.lineSpan, row_of_getElem? h]
  rfl

/-- The line of an offset is one that starts by the offset, and the next one starts after it. -/
theorem lineOf_spec {offset : Nat} (h : offset ≤ lines.size) :
    ∃ k row, lines.lineOf offset = .ok (k + 1) ∧ lines.rowList[k]? = some row ∧
      row.start ≤ offset ∧ ∀ next, lines.rowList[k + 1]? = some next → offset < next.start := by
  obtain ⟨k, row, hcount, hrow⟩ := lines.tiles.countP_spec (Nat.zero_le offset)
  refine ⟨k, row, ?_, hrow⟩
  have hin : ¬((offset : Int) < 0 ∨ (offset : Int) > lines.size) := by omega
  rw [lineOf, if_neg hin, Int.toNat_natCast, ← hcount, rowList, Array.countP_toList]

/-- An offset on a row, or just behind it, lies on the line of that row. -/
theorem lineOf_of_le {k offset : Nat} {row : Row} (h : lines.rowList[k]? = some row)
    (hstart : row.start ≤ offset) (hstop : offset ≤ row.start + byteLength row.chars)
    (hsize : offset ≤ lines.size) : lines.lineOf offset = .ok (k + 1) := by
  obtain ⟨j, other, hline, hother, hle, hnext⟩ := lineOf_spec hsize
  rcases Nat.lt_trichotomy j k with hjk | rfl | hkj
  · obtain ⟨hk, -⟩ := List.getElem?_eq_some_iff.mp h
    have hafter := List.getElem?_eq_getElem (show j + 1 < lines.rowList.length by omega)
    have hlt := hnext _ hafter
    have := lines.tiles.start_le hjk hafter h
    omega
  · exact hline
  · have := lines.tiles.stop_lt hkj h hother
    omega

/-- The text from some row on is tiled by the rows from that row on. -/
theorem tiles_drop {k : Nat} {row : Row} (h : lines.rowList[k]? = some row) :
    ∃ pre rest, lines.source.toList = pre ++ rest ∧ row.start = byteLength pre ∧
      Row.Tiles row.start rest (lines.rowList.drop k) := by
  obtain ⟨hlt, rfl⟩ := List.getElem?_eq_some_iff.mp h
  have htiles := lines.tiles
  rw [← List.take_append_drop k lines.rowList, List.drop_eq_getElem_cons hlt] at htiles
  obtain ⟨pre, rest, hsource, hstart, hrest⟩ := htiles.suffix
  rw [List.drop_eq_getElem_cons hlt]
  exact ⟨pre, rest, hsource, by rw [hstart, Nat.zero_add], hrest⟩

theorem le_size_of_lineOf {offset line : Nat} (h : lines.lineOf offset = .ok line) :
    offset ≤ lines.size := by
  unfold lineOf at h
  split_ifs at h
  omega

/-- What comes before an offset does not lie on a later line. -/
theorem lineOf_mono {start stop line : Nat} (hle : start ≤ stop) (h : lines.lineOf stop = .ok line) :
    ∃ earlier, lines.lineOf start = .ok earlier ∧ earlier ≤ line := by
  have hsize := le_size_of_lineOf h
  rw [lineOf, if_neg (by omega)] at h ⊢
  obtain rfl := Except.ok.inj h
  refine ⟨_, rfl, ?_⟩
  rw [← Array.countP_toList, ← Array.countP_toList]
  refine List.countP_mono_left fun row _ hrow => ?_
  simp only [Int.toNat_natCast, decide_eq_true_eq] at hrow ⊢
  exact Nat.le_trans hrow hle

/-- An offset on the line of a row is one of that row, or just behind it. -/
theorem le_of_lineOf {k offset : Nat} {row : Row} (hrow : lines.rowList[k]? = some row)
    (hline : lines.lineOf offset = .ok (k + 1)) :
    row.start ≤ offset ∧ offset ≤ row.start + byteLength row.chars := by
  have hsize := le_size_of_lineOf hline
  obtain ⟨j, other, hline', hother, hle, hnext⟩ := lineOf_spec hsize
  obtain rfl : k = j := Nat.succ.inj (Except.ok.inj (hline.symm.trans hline'))
  obtain rfl := Option.some.inj (hrow.symm.trans hother)
  refine ⟨hle, ?_⟩
  obtain ⟨pre, rest, hsource, hstart, htiles⟩ := tiles_drop hrow
  have hdrop : lines.rowList.drop k = row :: lines.rowList.drop (k + 1) := by
    obtain ⟨hk, rfl⟩ := List.getElem?_eq_some_iff.mp hrow
    exact List.drop_eq_getElem_cons hk
  rw [hdrop] at htiles
  generalize hothers : lines.rowList.drop (k + 1) = others at htiles
  obtain ⟨start, chars⟩ := row
  -- the last row goes on to the end of the text, any other one to the line feed in front of the next
  cases htiles with
  | last =>
    rw [size, ← byteLength_toList, hsource, byteLength_append, ← hstart] at hsize
    exact hsize
  | feed _ htail =>
    obtain ⟨next, hhead, hstart'⟩ := htail.head
    have hlt := hnext next (by rw [← hhead, ← hothers, List.getElem?_drop])
    rw [hstart'] at hlt
    exact Nat.le_of_lt_succ hlt

/-- A row ends within the text. -/
theorem stop_le_size {k : Nat} {row : Row} (h : lines.rowList[k]? = some row) :
    row.start + byteLength row.chars ≤ lines.size := by
  obtain ⟨hk, rfl⟩ := List.getElem?_eq_some_iff.mp h
  obtain ⟨pre, rest, hsource, hstart, htiles⟩ := tiles_drop h
  have hsize : lines.size = byteLength pre + byteLength rest := by
    rw [size, ← byteLength_toList, hsource, byteLength_append]
  rw [List.drop_eq_getElem_cons hk] at htiles
  rw [hsize, ← hstart]
  generalize lines.rowList[k] = row, lines.rowList.drop (k + 1) = others at htiles
  obtain ⟨start, chars⟩ := row
  cases htiles with
  | last => exact Nat.le_refl _
  | feed =>
    rw [byteLength_append]
    dsimp only
    omega

/-- A lookup that succeeds for every number of a range gives the rows one after the other. -/
theorem mapM_row_range (g : Row → α) (k count : Nat) (h : k + count ≤ lines.count) :
    ((range ((k : Int) + 1) ((k : Int) + count)).mapM fun n => do return g (← lines.row n)) =
      .ok (((lines.rowList.drop k).take count).map g) := by
  have hcount : ((k : Int) + count + 1 - ((k : Int) + 1)).toNat = count := by omega
  rw [range, hcount]
  induction count with
  | zero => rfl
  | succ count ih =>
    have hlt : k + count < lines.rowList.length := by
      rw [length_rowList]
      omega
    have hrow := row_of_getElem? (List.getElem?_eq_getElem hlt)
    have hlast : lines.row ((k : Int) + 1 + (count : Int)) = .ok lines.rowList[k + count] := by
      rw [← hrow]
      congr 1
      omega
    rw [List.range_succ, List.map_append, List.mapM_append, ih (by omega) (by omega), List.take_add_one]
    simp [hlast, bind, Except.bind, pure, Except.pure, List.getElem?_eq_getElem hlt]

/-- Several lines are the texts of their rows, joined. -/
theorem lines_eq {k count : Nat} (h : k + count ≤ lines.count) :
    lines.lines ((k : Int) + 1) ((k : Int) + count) =
      .ok ("\n".intercalate (((lines.rowList.drop k).take count).map Row.text)) := by
  rw [Lines.lines, show lines.line = fun n => do return Row.text (← lines.row n) from rfl,
    mapM_row_range Row.text k count h]
  rfl

/-- Lines that there are can be shown. -/
theorem exists_lines {first last : Nat} (hfirst : 1 ≤ first) (hle : first ≤ last) (hlast : last ≤ lines.count) :
    ∃ shown, lines.lines first last = .ok shown := by
  obtain ⟨k, rfl⟩ : ∃ k, first = k + 1 := ⟨first - 1, by omega⟩
  obtain ⟨count, rfl⟩ : ∃ count, last = k + count := ⟨last - k, by omega⟩
  rw [Int.natCast_add, Int.natCast_one, Int.natCast_add]
  exact ⟨_, lines_eq hlast⟩

end Lines

end ProposalCheck

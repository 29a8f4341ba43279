import Mathlib.Data.Prod.Lex
import ProposalCheck.Proofs.Source.Slice
import ProposalCheck.Proofs.Text.WellFormed

/-!
# Line and column of an offset

The line of an offset is told by the line feeds before it, and its column by the characters that start on the line
before it. Both are defined inside a character too, where that character counts as one that starts before. So positions
grow with offsets, and at the boundaries of characters no two are equal: the offset can be found again from line and
column.

## Main definitions

* `charStarts`: the offsets at which characters start
* `decodeLossy`: what can be read of any sequence of bytes
* `StartsLine`: where the line of an offset starts

## Main results

* `Row.Tiles.take_eq`: as many line feeds come before a row as there are rows
* `charsBefore_eq_countP`: the characters before an offset are those that start there
* `Lines.position_eq_decodeLossy`: the column counts what is read of the bytes between the start of the line and the
  offset
* `Lines.position_exact`: line and column of every offset, their order, and the offset that they belong to
-/

namespace ProposalCheck

variable {cs ds : List Char} {start offset : Nat}

/-! ### Where characters start -/

/-- The offsets at which the characters of `cs` start, the first of them at `start`. -/
def charStarts (start : Nat) : List Char → List Nat
  | [] => []
  | c :: cs => start :: charStarts (start + c.utf8Size) cs

theorem charStarts_append (start : Nat) (cs ds : List Char) :
    charStarts start (cs ++ ds) = charStarts start cs ++ charStarts (start + byteLength cs) ds := by
  induction cs generalizing start with
  | nil => rfl
  | cons c cs ih => rw [List.cons_append, charStarts, ih, charStarts, byteLength, Nat.add_assoc, List.cons_append]

theorem bounds_of_mem_charStarts {x : Nat} (h : x ∈ charStarts start cs) :
    start ≤ x ∧ x < start + byteLength cs := by
  induction cs generalizing start with
  | nil => cases h
  | cons c cs ih =>
    have hpos := c.utf8Size_pos
    rw [byteLength]
    rcases List.mem_cons.mp h with rfl | hrest
    · omega
    · have := ih hrest
      omega

/-- The characters before an offset are those that start there. -/
theorem charsBefore_eq_countP (start offset : Nat) (cs : List Char) :
    charsBefore offset cs = (charStarts start cs).countP (· < start + offset) := by
  induction cs generalizing start offset with
  | nil => rfl
  | cons c cs ih =>
    rw [charsBefore, charStarts, List.countP_cons]
    split_ifs with hzero hlt hlt
    · simp [hzero] at hlt
    · -- the characters behind the offset start behind it as well
      rw [eq_comm, Nat.add_zero, List.countP_eq_zero]
      intro x hx
      have := bounds_of_mem_charStarts hx
      simp only [decide_eq_true_eq]
      omega
    · rw [ih (start + c.utf8Size)]
      congr 1
      refine List.countP_congr fun x hx => ?_
      have := bounds_of_mem_charStarts hx
      simp only [decide_eq_true_eq]
      omega
    · simp only [decide_eq_true_eq] at hlt
      omega

/-- Characters behind an offset do not count. -/
theorem charsBefore_append_of_le (h : offset ≤ byteLength cs) (ds : List Char) :
    charsBefore offset (cs ++ ds) = charsBefore offset cs := by
  rw [charsBefore_eq_countP 0, charsBefore_eq_countP 0, charStarts_append, List.countP_append, Nat.add_eq_left,
    List.countP_eq_zero]
  intro x hx
  have := bounds_of_mem_charStarts hx
  simp only [decide_eq_true_eq]
  omega

/-! ### Bytes that are read as far as possible -/

/-- Reads bytes as characters, with a replacement character in the place of each character that breaks off and of each
other byte that belongs to none. The first argument is the character in progress, if any. -/
def decodeLossy : Option PartialChar → List UInt8 → List Char
  | none, [] => []
  | some _, [] => ['\uFFFD']
  | none, b :: rest =>
    if b.toNat < 0x80 then Char.ofNat b.toNat :: decodeLossy none rest
    else match leadByte? b.toNat with
      | none => '\uFFFD' :: decodeLossy none rest
      | some (low, high, remaining, bits) => decodeLossy (some ⟨low, high, remaining, bits⟩) rest
  | some p, b :: rest =>
    if p.low ≤ b.toNat ∧ b.toNat ≤ p.high then
      let bits := p.bits * 64 + (b.toNat - 0x80)
      if p.remaining ≤ 1 then Char.ofNat bits :: decodeLossy none rest
      else decodeLossy (some ⟨0x80, 0xBF, p.remaining - 1, bits⟩) rest
    else '\uFFFD' :: decodeLossy none (b :: rest)
  -- where a character breaks off, the byte that does not belong to it is read again
  termination_by p bytes => 2 * bytes.length + p.toList.length

instance (b : UInt8) : Decidable (IsTail b) := inferInstanceAs (Decidable (_ ∧ _))

/-- Of bytes in front of others with which they can be read, one character is read for each byte that starts one, and
one more if a character was in progress. -/
theorem length_decodeLossy {p : Option PartialChar} {front back : List UInt8}
    (hp : ∀ q ∈ p, 0x80 ≤ q.low ∧ q.high < 0xC0) (h : decodeBytes p (front ++ back) = .ok cs) :
    (decodeLossy p front).length = front.countP (¬IsTail ·) + p.toList.length := by
  induction front generalizing p cs with
  | nil => cases p <;> simp [decodeLossy]
  | cons b front ih =>
    rw [List.cons_append] at h
    cases p with
    | none =>
      rw [decodeBytes] at h
      rw [decodeLossy]
      -- a byte that starts a character starts it right away or leaves it in progress
      split_ifs at h ⊢ with hascii
      · obtain ⟨rest, hrest, -⟩ := exists_of_map_eq_ok h
        have hb : ¬IsTail b := fun htail => Nat.not_lt.mpr htail.1 hascii
        simp [ih (by simp) hrest, hb]
      · cases hlead : leadByte? b.toNat with
        | none =>
          rw [hlead] at h
          cases h
        | some lead =>
          obtain ⟨low, high, remaining, bits⟩ := lead
          rw [hlead] at h
          have hbounds : 0xC2 ≤ b.toNat ∧ 0x80 ≤ low ∧ high < 0xC0 := by
            have := leadByte?_eq_some_iff.mp hlead
            grind
          have hb : ¬IsTail b := fun htail => Nat.not_lt.mpr (Nat.le_trans (by decide) hbounds.1) htail.2
          dsimp only at h ⊢
          rw [ih (by simpa using hbounds.2) h]
          simp [hb]
    | some q =>
      obtain ⟨hlow, hhigh⟩ := hp q rfl
      rw [decodeBytes] at h
      rw [decodeLossy]
      dsimp only at h ⊢
      -- another byte of the character in progress, which it ends or does not end
      split_ifs at h ⊢ with hrange hlast
      all_goals have hb : IsTail b := ⟨Nat.le_trans hlow hrange.1, Nat.lt_of_le_of_lt hrange.2 hhigh⟩
      · obtain ⟨rest, hrest, -⟩ := exists_of_map_eq_ok h
        simp [ih (by simp) hrest, hb]
      · rw [ih (by simp) h]
        simp [hb]

/-- The first byte of a character starts it, and the others continue it. -/
theorem exists_utf8EncodeChar_eq (c : Char) : ∃ lead more, String.utf8EncodeChar c = lead :: more ∧
    ¬IsTail lead ∧ ∀ b ∈ more, IsTail b := by
  have hspells := (spells_utf8EncodeChar c).1
  generalize String.utf8EncodeChar c = bytes at hspells
  cases hspells with
  | one ha _ => exact ⟨_, _, rfl, fun htail => Nat.not_lt.mpr htail.1 ha, by simp⟩
  | two ha _ hb _ => exact ⟨_, _, rfl, fun htail => Nat.not_lt.mpr ha htail.2, by simp [hb]⟩
  | three ha _ hb hc _ =>
    exact ⟨_, _, rfl, fun htail => Nat.not_lt.mpr (Nat.le_trans (by decide) ha) htail.2, by simp [hb, hc]⟩
  | four ha _ hb hc hd _ =>
    exact ⟨_, _, rfl, fun htail => Nat.not_lt.mpr (Nat.le_trans (by decide) ha) htail.2, by simp [hb, hc, hd]⟩

/-- The characters before an offset are those whose first byte comes before it. -/
theorem countP_take_charBytes (offset : Nat) (cs : List Char) :
    ((charBytes cs).take offset).countP (¬IsTail ·) = charsBefore offset cs := by
  induction cs generalizing offset with
  | nil => simp [charsBefore]
  | cons c cs ih =>
    obtain ⟨lead, more, hbytes, hlead, hmore⟩ := exists_utf8EncodeChar_eq c
    have hnone : (more.take (offset - 1)).countP (¬IsTail ·) = 0 :=
      List.countP_eq_zero.mpr fun b hb => by simpa using hmore b (List.mem_of_mem_take hb)
    have hsize : more.length = c.utf8Size - 1 := by
      rw [← String.length_utf8EncodeChar, hbytes, List.length_cons, Nat.add_sub_cancel]
    rw [charBytes_cons, hbytes, charsBefore]
    cases offset with
    | zero => rfl
    | succ offset =>
      -- the bytes behind the first one take up the offset, too, but count for nothing
      have hrest : offset - more.length = offset + 1 - c.utf8Size := by
        have := c.utf8Size_pos
        omega
      rw [List.cons_append, List.take_succ_cons, List.take_append, List.countP_cons_of_pos (by simpa using hlead),
        List.countP_append, hrest, ih, if_neg (Nat.succ_ne_zero offset)]
      rw [Nat.add_sub_cancel] at hnone
      rw [hnone, Nat.zero_add]

/-- Of the bytes before an offset, one character is read for each that starts before it. -/
theorem length_decodeLossy_take (offset : Nat) (cs : List Char) :
    (decodeLossy none ((charBytes cs).take offset)).length = charsBefore offset cs := by
  have hread : decodeBytes none ((charBytes cs).take offset ++ (charBytes cs).drop offset) = .ok cs := by
    rw [List.take_append_drop]
    exact decodeBytes_eq_ok_iff.mpr rfl
  rw [length_decodeLossy (by simp) hread, countP_take_charBytes]
  rfl

/-! ### The bytes before a row -/

/-- The line of an offset starts with the text or just after a line feed, and no line feed comes between its start and
the offset. -/
def StartsLine (bytes : List UInt8) (start offset : Nat) : Prop :=
  ∃ before within, bytes.take offset = before ++ within ∧ before.length = start ∧
    (before = [] ∨ before.getLast? = some 10) ∧ 10 ∉ within

namespace Row

variable {rows : List Row} {row : Row} {k : Nat}

/-- As many line feeds come before a row as there are rows, the last of them just before it. -/
theorem Tiles.take_eq (h : Tiles start cs rows) (hrow : rows[k]? = some row) (hle : row.start ≤ offset)
    (hstop : offset ≤ row.start + byteLength row.chars) :
    ∃ before within, (charBytes cs).take (offset - start) = before ++ within ∧ start + before.length = row.start ∧
      before.count 10 = k ∧ (before = [] ∨ before.getLast? = some 10) ∧ 10 ∉ within := by
  have hfree : ∀ {cs : List Char}, '\n' ∉ cs → (10 : UInt8) ∉ charBytes cs := fun hcs hmem =>
    hcs ((mem_charBytes (by decide)).mp hmem)
  induction h generalizing k with
  | @last start cs hcs =>
    obtain ⟨rfl, rfl⟩ : k = 0 ∧ ⟨start, cs⟩ = row := by
      cases k with
      | zero => exact ⟨rfl, by simpa using hrow⟩
      | succ k => simp at hrow
    exact ⟨[], _, rfl, rfl, rfl, .inl rfl, fun hmem => hfree hcs (List.mem_of_mem_take hmem)⟩
  | @feed start cs rest rows hcs htail ih =>
    rw [charBytes_append, charBytes_feed]
    cases k with
    | zero =>
      obtain rfl : ⟨start, cs⟩ = row := by simpa using hrow
      refine ⟨[], _, List.take_append_of_le_length ?_, rfl, rfl, .inl rfl, fun hmem =>
        hfree hcs (List.mem_of_mem_take hmem)⟩
      rw [length_charBytes]
      dsimp only at hstop
      omega
    | succ k =>
      rw [List.getElem?_cons_succ] at hrow
      have hafter := htail.le_start row (List.mem_of_getElem? hrow)
      -- the first row and its line feed come before what comes before the row in the rest
      obtain ⟨before, within, htake, hlength, hcount, hlast, hwithin⟩ := ih hrow
      refine ⟨charBytes cs ++ 10 :: before, within, ?_, ?_, ?_, .inr ?_, hwithin⟩
      · have hoffset : offset - start = (charBytes cs).length + (offset - (start + byteLength cs + 1) + 1) := by
          rw [length_charBytes]
          omega
        rw [hoffset, List.take_length_add_append, List.take_succ_cons, htake, List.append_assoc, List.cons_append]
      · rw [List.length_append, List.length_cons, length_charBytes]
        omega
      · rw [List.count_append, List.count_cons_self, hcount, List.count_eq_zero_of_not_mem (hfree hcs), Nat.zero_add]
      · rw [List.getLast?_append_of_ne_nil _ (by simp), List.getLast?_cons]
        rcases hlast with rfl | hlast
        · rfl
        · rw [hlast, Option.getD_some]

end Row

/-! ### Positions -/

namespace Lines

variable {lines : Lines} {row : Row} {k later : Nat}

/-- What a position is computed from: the row of an offset. -/
theorem exists_row_of_le (h : offset ≤ lines.size) : ∃ k row, lines.lineOf offset = .ok (k + 1) ∧
    lines.rowList[k]? = some row ∧ row.start ≤ offset ∧ offset ≤ row.start + byteLength row.chars := by
  obtain ⟨k, row, hline, hrow, -⟩ := lineOf_spec h
  exact ⟨k, row, hline, hrow, le_of_lineOf hrow hline⟩

/-- The column counts the characters from the start of the row, whatever comes behind it. -/
theorem position_eq (hline : lines.lineOf offset = .ok (k + 1)) (hrow : lines.rowList[k]? = some row)
    (after : List Char) :
    lines.position offset = .ok (k + 1, charsBefore (offset - row.start) (row.chars ++ after) + 1) := by
  obtain ⟨hle, hstop⟩ := le_of_lineOf hrow hline
  have hfound : lines.row ((k + 1 : Nat) : Int) = .ok row := row_of_getElem? hrow
  have hwithin : offset - row.start ≤ byteLength row.chars := by omega
  rw [position, hline]
  simp only [bind, Except.bind, hfound, pure, Except.pure, Int.toNat_natCast, charsBefore_append_of_le hwithin]

/-- Before an offset there are as many line feeds as there are rows before its own. -/
theorem startsLine_of_lineOf (hline : lines.lineOf offset = .ok (k + 1)) (hrow : lines.rowList[k]? = some row) :
    StartsLine (textBytes lines.source) row.start offset ∧ ((textBytes lines.source).take offset).count 10 = k := by
  obtain ⟨hle, hstop⟩ := le_of_lineOf hrow hline
  obtain ⟨before, within, htake, hlength, hcount, hlast, hfree⟩ := lines.tiles.take_eq hrow hle hstop
  rw [Nat.sub_zero, ← textBytes_eq] at htake
  rw [Nat.zero_add] at hlength
  refine ⟨⟨before, within, htake, hlength, hlast, hfree⟩, ?_⟩
  rw [htake, List.count_append, hcount, List.count_eq_zero_of_not_mem hfree, Nat.add_zero]

/-- The characters of a row before an offset are those of the text that start on the row and before the offset. -/
theorem charsBefore_eq_countP_source {before rest : List Char} (hsource : lines.source.toList = before ++ rest)
    (hle : byteLength before ≤ offset) : charsBefore (offset - byteLength before) rest =
      (charStarts 0 lines.source.toList).countP (fun x => byteLength before ≤ x ∧ x < offset) := by
  have hbefore : (charStarts 0 before).countP (fun x => byteLength before ≤ x ∧ x < offset) = 0 := by
    rw [List.countP_eq_zero]
    intro x hx
    have := bounds_of_mem_charStarts hx
    simp only [decide_eq_true_eq]
    omega
  rw [hsource, charStarts_append, List.countP_append, hbefore, Nat.zero_add, Nat.zero_add,
    charsBefore_eq_countP (byteLength before), Nat.add_sub_cancel' hle]
  refine List.countP_congr fun x hx => ?_
  have := bounds_of_mem_charStarts hx
  simp only [decide_eq_true_eq]
  omega

/-- The column of an offset counts what is read of the bytes between the start of its line and the offset. Of a
character that the offset cuts, one replacement character is read. -/
theorem position_eq_decodeLossy (h : offset ≤ lines.size) : ∃ line span, lines.lineOf offset = .ok line ∧
    lines.lineSpan line = .ok span ∧ lines.position offset =
      .ok (line, (decodeLossy none (((textBytes lines.source).take offset).drop span.start)).length + 1) := by
  obtain ⟨k, row, hline, hrow, hle, -⟩ := exists_row_of_le h
  obtain ⟨before, after, hsource, hstart, -⟩ := exists_source_eq hrow
  refine ⟨k + 1, row.span, hline, lineSpan_of_getElem? hrow, ?_⟩
  have hlength : (charBytes before).length = row.start := by rw [length_charBytes, hstart]
  rw [position_eq hline hrow after, textBytes_eq, hsource, charBytes_append, Row.span, List.drop_take, ← hlength,
    List.drop_left, length_decodeLossy_take]

/-- Of two offsets the later one has no smaller column on one row. -/
theorem charsBefore_mono (h : offset ≤ later) (cs : List Char) : charsBefore offset cs ≤ charsBefore later cs := by
  rw [charsBefore_eq_countP 0, charsBefore_eq_countP 0]
  refine List.countP_mono_left fun x _ hx => ?_
  simp only [decide_eq_true_eq] at hx ⊢
  omega

/-- Behind a boundary there starts one more character. -/
theorem charsBefore_lt (before : List Char) {rest : List Char} (hlt : byteLength before < later) (hrest : rest ≠ []) :
    charsBefore (byteLength before) (before ++ rest) < charsBefore later (before ++ rest) := by
  obtain ⟨more, rfl⟩ : ∃ more, later = byteLength before + (more + 1) := ⟨later - byteLength before - 1, by omega⟩
  obtain ⟨c, rest, rfl⟩ := List.exists_cons_of_ne_nil hrest
  rw [charsBefore_append, charsBefore_add_append, charsBefore, if_neg (Nat.succ_ne_zero more)]
  omega

/-- At a boundary, the characters that the column counts are those between the start of the line and the boundary. -/
theorem exists_middle_of_isBoundary {before rest : List Char} (hsource : lines.source.toList = before ++ rest)
    (hle : byteLength before ≤ offset) (h : IsBoundary lines.source.toList offset) :
    ∃ middle after, rest = middle ++ after ∧ offset = byteLength before + byteLength middle ∧
      charsBefore (offset - byteLength before) rest = middle.length := by
  obtain ⟨middle, after, rfl, rfl⟩ := (hsource ▸ h).exists_split hle
  exact ⟨middle, after, rfl, rfl, by rw [Nat.add_sub_cancel_left, charsBefore_append]⟩

/-- Positions grow with offsets, and strictly so behind a boundary. -/
theorem toLex_position_le {p q : Nat × Nat} (hle : offset ≤ later) (hp : lines.position offset = .ok p)
    (hq : lines.position later = .ok q) : toLex p ≤ toLex q ∧
      (IsBoundary lines.source.toList offset → offset < later → toLex p < toLex q) := by
  obtain ⟨line, hlater, -⟩ := exists_of_bind_eq_ok hq
  have hsize := le_size_of_lineOf hlater
  obtain ⟨j, row', hline', hrow', hstart', -⟩ := exists_row_of_le hsize
  obtain ⟨k, row, hline, hrow, hstart, -⟩ := exists_row_of_le (Nat.le_trans hle hsize)
  obtain ⟨before, after, hsource, hbefore, -⟩ := exists_source_eq hrow
  obtain rfl := Except.ok.inj (hp.symm.trans (position_eq hline hrow after))
  obtain ⟨line', hfirst, hlines⟩ := lineOf_mono hle hline'
  obtain rfl := Except.ok.inj (hfirst.symm.trans hline)
  rw [Prod.Lex.toLex_le_toLex, Prod.Lex.toLex_lt_toLex]
  rcases Nat.lt_or_eq_of_le hlines with hnext | hsame
  · obtain rfl := Except.ok.inj (hq.symm.trans (position_eq hline' hrow' []))
    exact ⟨.inl hnext, fun _ _ => .inl hnext⟩
  · -- on one line the characters are counted from one start
    obtain rfl := Nat.succ.inj hsame
    obtain rfl := Option.some.inj (hrow.symm.trans hrow')
    obtain rfl := Except.ok.inj (hq.symm.trans (position_eq hline' hrow after))
    refine ⟨.inr ⟨rfl, Nat.succ_le_succ (charsBefore_mono (Nat.sub_le_sub_right hle _) _)⟩, fun hboundary hlt => ?_⟩
    refine .inr ⟨rfl, Nat.succ_lt_succ ?_⟩
    rw [← hbefore] at hstart ⊢
    obtain ⟨middle, rest, hrest, rfl, hcount⟩ := exists_middle_of_isBoundary hsource hstart hboundary
    have hne : rest ≠ [] := by
      rintro rfl
      rw [size, ← byteLength_toList, hsource, hrest, byteLength_append, List.append_nil] at hsize
      omega
    rw [Nat.add_sub_cancel_left, hrest]
    exact charsBefore_lt middle (by omega) hne

/-- An offset outside of a text has no position. An offset within it, between characters or not, lies on the line that
the line feeds before it tell, and its column is told by the characters that start on that line before it. Later offsets
have no smaller positions, and no boundary has the position of a later offset. A boundary comes after as many characters
of its line as its column tells. -/
theorem position_exact (text : String) :
    let lines := ofString text
    (∀ offset : Int, offset < 0 ∨ text.utf8ByteSize < offset →
      lines.position offset = .error (.offsetOutOfRange offset)) ∧
    (∀ offset : Nat, offset ≤ text.utf8ByteSize → ∃ line column span,
      lines.position offset = .ok (line, column) ∧ lines.lineSpan line = .ok span ∧
      line = ((textBytes text).take offset).count 10 + 1 ∧ StartsLine (textBytes text) span.start offset ∧
      column = (charStarts 0 text.toList).countP (fun x => span.start ≤ x ∧ x < offset) + 1 ∧
      (IsBoundary text.toList offset → ∃ before rest, text.toList = before ++ rest ∧ byteLength before = span.start ∧
        offset = span.start + byteLength (rest.take (column - 1)))) ∧
    ∀ (offset later : Nat) (p q : Nat × Nat), offset ≤ later → lines.position offset = .ok p →
      lines.position later = .ok q → toLex p ≤ toLex q ∧
        (IsBoundary text.toList offset → offset < later → toLex p < toLex q) := by
  intro lines
  refine ⟨fun offset hout => ?_, fun offset hle => ?_, fun offset later p q => toLex_position_le⟩
  · -- no line is found for an offset outside of the text
    have hline : lines.lineOf offset = .error (.offsetOutOfRange offset) := if_pos hout
    rw [position, hline]
    rfl
  · obtain ⟨k, row, hline, hrow, hstart, -⟩ := @exists_row_of_le offset lines hle
    obtain ⟨before, after, hsource, hbefore, -⟩ := exists_source_eq hrow
    obtain ⟨hstarts, hcount⟩ := startsLine_of_lineOf hline hrow
    refine ⟨k + 1, _, row.span, position_eq hline hrow after, lineSpan_of_getElem? hrow, congrArg (· + 1) hcount.symm,
      hstarts, ?_, fun hboundary => ⟨before, _, hsource, hbefore, ?_⟩⟩
    · rw [Row.span, ← hbefore, charsBefore_eq_countP_source hsource (hbefore ▸ hstart)]
      rfl
    · rw [← hbefore] at hstart
      obtain ⟨middle, rest, hrest, hoffset, hmiddle⟩ := exists_middle_of_isBoundary hsource hstart hboundary
      rw [Nat.add_sub_cancel, Row.span, ← hbefore, hmiddle, hrest, List.take_left]
      exact hoffset

/-- A text of two lines with characters of one, two and four bytes. The offset 7 lies within the last but one. -/
theorem position_exact_inside :
    let lines := ofString "a\r\nü😀b"
    lines.position 7 = .ok (2, 3) ∧ lines.position 5 = .ok (2, 2) ∧ toLex (2, 2) < toLex (2, 3) ∧
      lines.position 11 = .error (.offsetOutOfRange 11) ∧
      ∃ before rest, "a\r\nü😀b".toList = before ++ rest ∧ byteLength before = 3 ∧ 5 = 3 + byteLength (rest.take 1) := by
  intro lines
  obtain ⟨hout, hin, horder⟩ := position_exact "a\r\nü😀b"
  have hsize : "a\r\nü😀b".utf8ByteSize = 10 := by decide
  have hspan : lines.lineSpan (2 : Nat) = .ok ⟨3, 10⟩ := by decide
  have hcut : lines.position 7 = .ok (2, 3) := by
    obtain ⟨line, column, span, hposition, hspan', hline, -, hcolumn, -⟩ := hin 7 (by omega)
    obtain rfl : line = 2 := hline.trans (by decide)
    obtain rfl := Except.ok.inj (hspan.symm.trans hspan')
    rw [hcolumn] at hposition
    exact hposition.trans (by decide)
  have hboundary : IsBoundary "a\r\nü😀b".toList 5 := ⟨"a\r\nü".toList, "😀b".toList, by decide, by decide⟩
  obtain ⟨line, column, span, hposition, hspan', hline, -, hcolumn, hrest⟩ := hin 5 (by omega)
  obtain rfl : line = 2 := hline.trans (by decide)
  obtain rfl := Except.ok.inj (hspan.symm.trans hspan')
  obtain rfl : column = 2 := hcolumn.trans (by decide)
  exact ⟨hcut, hposition, (horder 5 7 _ _ (by omega) hposition hcut).2 hboundary (by omega), hout 11 (.inr (by omega)),
    hrest hboundary⟩

end Lines

end ProposalCheck

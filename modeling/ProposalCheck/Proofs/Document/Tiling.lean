import ProposalCheck.Proofs.Document.Items

/-!
# Items that tile a value

A value is a list of parts for every separator that it may have. The items are the parts without the blanks around
them, and they stand one behind the other in the line of the field: between two of them there is nothing but blanks and
the separator, and in front of the first one and behind the last one there are only blanks. So every byte of the value
belongs to an item, to a separator or to the blanks around it.

## Main definitions

* `AreBlanks`, `Separates`: what stands between two offsets of a text
* `Field.IsTiled`: the items of a value for a separator, and what stands between them

## Main results

* `Field.itemAt_covers`, `Field.itemAt_front`, `Field.itemAt_back`: where an item stands in its part
* `Field.separates_itemAt`: what stands between an item and the next one
* `Field.Shows.isTiled`: the items of a value tile it
* `Field.items_tile`: the items and the trimmed value of every field of a preamble
-/

namespace ProposalCheck

variable {front part rest separator : List Char} {parts : List (List Char)}

/-- There are only blanks between two offsets of a text. -/
def AreBlanks (cs : List Char) (start stop : Nat) : Prop :=
  ∃ blanks, (∀ c ∈ blanks, isBlank c) ∧ Span.Covers ⟨start, stop⟩ cs blanks

/-- Between two offsets of a text there is the separator, perhaps with blanks around it. -/
def Separates (separator cs : List Char) (start stop : Nat) : Prop :=
  ∃ before after, (∀ c ∈ before, isBlank c) ∧ (∀ c ∈ after, isBlank c) ∧
    Span.Covers ⟨start, stop⟩ cs (before ++ (separator ++ after))

namespace Field

variable {field : Field} {lines : Lines} {line : Nat}

/-! ### One item -/

/-- An item is its part without the blanks around it. -/
def IsTrimmed (part : List Char) (item : String × Span) : Prop :=
  ∃ before after, Surrounds before item.1.toList after part

/-- An item stands in its part where the blanks in front of it end. -/
theorem exists_itemAt (front part : List Char) : ∃ before text after, Surrounds before text after part ∧
    itemAt front part = (String.ofList text,
      ⟨byteLength (front ++ before), byteLength (front ++ before) + byteLength text⟩) :=
  ⟨_, _, _, surrounds_trimChars part, rfl⟩

theorem isTrimmed_itemAt (front part : List Char) : IsTrimmed part (itemAt front part) := by
  obtain ⟨before, text, after, hblanks, hitem⟩ := exists_itemAt front part
  exact ⟨before, after, by rwa [hitem, String.toList_ofList]⟩

theorem itemAt_covers (front part rest : List Char) :
    (itemAt front part).2.Covers (front ++ part ++ rest) (itemAt front part).1.toList := by
  obtain ⟨before, text, after, hblanks, hitem⟩ := exists_itemAt front part
  rw [hitem, String.toList_ofList]
  exact ⟨front ++ before, after ++ rest, by simp [hblanks.eq], rfl⟩

/-- There are only blanks from the start of a part to its item. -/
theorem itemAt_front (front part rest : List Char) :
    AreBlanks (front ++ part ++ rest) (byteLength front) (itemAt front part).2.start := by
  obtain ⟨before, text, after, hblanks, hitem⟩ := exists_itemAt front part
  rw [hitem]
  exact ⟨before, hblanks.before, front, text ++ after ++ rest, by simp [hblanks.eq], by rw [byteLength_append]⟩

/-- There are only blanks from an item to the end of its part. -/
theorem itemAt_back (front part rest : List Char) :
    AreBlanks (front ++ part ++ rest) (itemAt front part).2.stop (byteLength (front ++ part)) := by
  obtain ⟨before, text, after, hblanks, hitem⟩ := exists_itemAt front part
  rw [hitem]
  refine ⟨after, hblanks.after, front ++ before ++ text, rest, by simp [hblanks.eq], ?_⟩
  simp [hblanks.eq, Nat.add_assoc]

/-- Between an item and that of the next part there are blanks, the separator and blanks. -/
theorem separates_itemAt (front part separator next rest : List Char) :
    Separates separator (front ++ part ++ separator ++ next ++ rest) (itemAt front part).2.stop
      (itemAt (front ++ part ++ separator) next).2.start := by
  obtain ⟨before, text, after, hblanks, hitem⟩ := exists_itemAt front part
  obtain ⟨before', text', after', hblanks', hitem'⟩ := exists_itemAt (front ++ part ++ separator) next
  rw [hitem, hitem']
  refine ⟨after, before', hblanks.after, hblanks'.before, front ++ before ++ text, text' ++ after' ++ rest, ?_, ?_⟩
  · simp [hblanks.eq, hblanks'.eq]
  · simp [hblanks.eq, Nat.add_assoc]

/-! ### All items of a value -/

/-- The items of parts that follow each other behind `front`, with a separator between them. -/
def itemsAt (separator : List Char) (front : List Char) : List (List Char) → List (String × Span)
  | [] => []
  | part :: parts => itemAt front part :: itemsAt separator (front ++ part ++ separator) parts

theorem placeItems_eq_itemsAt (separator front : List Char) (parts : List (List Char)) :
    placeItems (byteLength separator) (byteLength front) (parts.map String.ofList) =
      itemsAt separator front parts := by
  induction parts generalizing front with
  | nil => rfl
  | cons part parts ih => rw [List.map_cons, placeItems_cons, ← byteLength_append, ih, itemsAt]

theorem forall₂_itemsAt (separator front : List Char) (parts : List (List Char)) :
    List.Forall₂ IsTrimmed parts (itemsAt separator front parts) := by
  induction parts generalizing front with
  | nil => exact .nil
  | cons part parts ih => exact .cons (isTrimmed_itemAt front part) (ih _)

/-- The text in which items stand, up to the first part and from there on. -/
theorem intercalate_cons_cons (front part next : List Char) (parts : List (List Char)) :
    front ++ separator.intercalate (part :: next :: parts) =
      front ++ part ++ separator ++ separator.intercalate (next :: parts) := by
  rw [List.intercalate_cons_of_ne_nil (List.cons_ne_nil next parts)]
  simp

theorem exists_intercalate_eq (separator part : List Char) (parts : List (List Char)) :
    ∃ rest, separator.intercalate (part :: parts) = part ++ rest := by
  cases parts with
  | nil => exact ⟨[], by simp⟩
  | cons next parts =>
    exact ⟨_, by rw [List.intercalate_cons_of_ne_nil (List.cons_ne_nil next parts), List.append_assoc]⟩

theorem itemsAt_covers (separator front : List Char) (parts : List (List Char)) :
    ∀ item ∈ itemsAt separator front parts,
      byteLength front ≤ item.2.start ∧ item.2.Covers (front ++ separator.intercalate parts) item.1.toList := by
  induction parts generalizing front with
  | nil => simp [itemsAt]
  | cons part parts ih =>
    refine List.forall_mem_cons.mpr ⟨⟨?_, ?_⟩, fun item hitem => ?_⟩
    · rw [itemAt, byteLength_append]
      exact Nat.le_add_right _ _
    · obtain ⟨rest, hrest⟩ := exists_intercalate_eq separator part parts
      rw [hrest, ← List.append_assoc]
      exact itemAt_covers front part rest
    · obtain ⟨hle, hcovers⟩ := ih (front ++ part ++ separator) item hitem
      -- only in front of a further part does the separator stand
      cases parts with
      | nil => cases hitem
      | cons next parts =>
        rw [intercalate_cons_cons]
        rw [byteLength_append, byteLength_append] at hle
        exact ⟨by omega, hcovers⟩

/-- Items of later parts start behind those of earlier ones. -/
theorem pairwise_itemsAt (hne : separator ≠ []) (front : List Char) (parts : List (List Char)) :
    (itemsAt separator front parts).Pairwise fun item later => item.2.stop < later.2.start := by
  induction parts generalizing front with
  | nil => exact .nil
  | cons part parts ih =>
    refine List.pairwise_cons.mpr ⟨fun later hlater => ?_, ih _⟩
    obtain ⟨hle, -⟩ := itemsAt_covers separator (front ++ part ++ separator) parts later hlater
    obtain ⟨before, text, after, hblanks, hitem⟩ := exists_itemAt front part
    have hpos := byteLength_pos_iff.mpr hne
    simp only [hblanks.eq, byteLength_append] at hle
    rw [hitem, byteLength_append]
    dsimp only
    omega

/-- Between each item and the next one there is the separator with blanks around it. -/
theorem isChain_itemsAt (separator front : List Char) (parts : List (List Char)) :
    (itemsAt separator front parts).IsChain fun item next =>
      Separates separator (front ++ separator.intercalate parts) item.2.stop next.2.start := by
  induction parts generalizing front with
  | nil => exact .nil
  | cons part parts ih =>
    cases parts with
    | nil => exact .singleton _
    | cons next parts =>
      refine .cons_cons ?_ ?_
      · obtain ⟨rest, hrest⟩ := exists_intercalate_eq separator next parts
        rw [intercalate_cons_cons, hrest, ← List.append_assoc]
        exact separates_itemAt front part separator next rest
      · rw [intercalate_cons_cons]
        exact ih (front ++ part ++ separator)

/-- There are only blanks in front of the first item. -/
theorem areBlanks_head {item : String × Span} (h : (itemsAt separator front parts).head? = some item) :
    AreBlanks (front ++ separator.intercalate parts) (byteLength front) item.2.start := by
  cases parts with
  | nil => cases h
  | cons part parts =>
    obtain rfl := Option.some.inj h
    obtain ⟨rest, hrest⟩ := exists_intercalate_eq separator part parts
    rw [hrest, ← List.append_assoc]
    exact itemAt_front front part rest

/-- There are only blanks behind the last item. -/
theorem areBlanks_last {item : String × Span} (h : (itemsAt separator front parts).getLast? = some item) :
    AreBlanks (front ++ separator.intercalate parts) item.2.stop
      (byteLength (front ++ separator.intercalate parts)) := by
  induction parts generalizing front with
  | nil => cases h
  | cons part parts ih =>
    cases parts with
    | nil =>
      obtain rfl : itemAt front part = item := Option.some.inj h
      have hback := itemAt_back front part []
      simpa using hback
    | cons next parts =>
      rw [itemsAt, itemsAt, List.getLast?_cons_cons, ← itemsAt] at h
      rw [intercalate_cons_cons]
      exact ih h

/-- The items of a value for a separator tile it. -/
structure IsTiled (field : Field) (separator : String) (items : List (String × Span)) : Prop where
  /-- There is one item for each part of the value, the part without the blanks around it. -/
  parts : ∃ parts, Splits separator.toList field.value.toList parts ∧ List.Forall₂ IsTrimmed parts items
  /-- An item stands in the line of the field where it is said to. -/
  covers : ∀ item ∈ items, item.2.Covers field.source.toList item.1.toList
  /-- Items stand one behind the other. -/
  ordered : items.Pairwise fun item later => item.2.stop < later.2.start
  /-- There is nothing else between an item and the next one than the separator with blanks around it. -/
  between : items.IsChain fun item next =>
    Separates separator.toList field.source.toList item.2.stop next.2.start
  /-- There are only blanks from the start of the value to the first item. -/
  head : ∀ item, items.head? = some item → AreBlanks field.source.toList field.valueOffset item.2.start
  /-- There are only blanks from the last item to the end of the value, which is the end of the line. -/
  last : ∀ item, items.getLast? = some item →
    AreBlanks field.source.toList item.2.stop field.source.utf8ByteSize

theorem Shows.isTiled (h : field.Shows lines line) {separator : String} (hne : separator ≠ "") :
    field.IsTiled separator (field.items separator) := by
  have hne' : separator.toList ≠ [] := by simpa using hne
  have hsplits := splits_splitOnChars hne' 0 field.value.toList
  rw [List.drop_zero] at hsplits
  have hitems : field.items separator = itemsAt separator.toList (field.name ++ ":").toList
      (splitOnChars separator.toList 0 field.value.toList) := by
    rw [items, splitAt, valueOffset_eq, ← byteLength_toList, placeItems_eq_itemsAt]
  -- the line of the field is the name, the colon and the parts with the separator between them
  have hsource := h.source_eq
  rw [← hsplits.intercalate_eq] at hsource
  rw [hitems]
  generalize splitOnChars separator.toList 0 field.value.toList = parts at *
  refine ⟨⟨parts, hsplits, forall₂_itemsAt _ _ parts⟩, fun item hitem => ?_, pairwise_itemsAt hne' _ parts, ?_,
    fun item hitem => ?_, fun item hitem => ?_⟩
  · rw [hsource]
    exact (itemsAt_covers _ _ parts item hitem).2
  · rw [hsource]
    exact isChain_itemsAt _ _ parts
  · rw [hsource, valueOffset_eq]
    exact areBlanks_head hitem
  · rw [← byteLength_toList, hsource]
    exact areBlanks_last hitem

/-! ### The trimmed value -/

/-- A range of the line of a field holds the value without the blanks around it. -/
structure IsValueRange (field : Field) (range : Span) : Prop where
  covers : range.Covers field.source.toList field.trimmed.toList
  trimmed : ∃ before after, Surrounds before field.trimmed.toList after field.value.toList
  head : AreBlanks field.source.toList field.valueOffset range.start
  last : AreBlanks field.source.toList range.stop field.source.utf8ByteSize
  /-- The range of a blank value is empty and lies within the line. -/
  empty : isBlankText field.value → range.start = range.stop ∧ range.stop ≤ field.source.utf8ByteSize

/-- The whole value is a single part. -/
theorem itemAt_value (field : Field) :
    itemAt (field.name ++ ":").toList field.value.toList = (field.trimmed, field.valueRange) := by
  have hrange := trimmedRange_eq field.valueOffset field.value.toList
  rw [String.ofList_toList, valueOffset_eq] at hrange
  rw [valueRange, valueOffset_eq, hrange, itemAt, byteLength_append]
  rfl

theorem Shows.isValueRange (h : field.Shows lines line) : field.IsValueRange field.valueRange := by
  have hsource : field.source.toList = (field.name ++ ":").toList ++ field.value.toList := h.source_eq
  -- the value is the one item behind the name and the colon
  have hcovers := itemAt_covers (field.name ++ ":").toList field.value.toList []
  have hfront := itemAt_front (field.name ++ ":").toList field.value.toList []
  have hback := itemAt_back (field.name ++ ":").toList field.value.toList []
  have htrimmed := isTrimmed_itemAt (field.name ++ ":").toList field.value.toList
  rw [itemAt_value, List.append_nil, ← hsource] at hcovers hfront hback
  rw [itemAt_value] at htrimmed
  refine ⟨hcovers, htrimmed, by rwa [valueOffset_eq], by rwa [← byteLength_toList], fun hblank => ⟨?_, ?_⟩⟩
  · have hempty : trimStartChars field.value.toList = [] :=
      List.dropWhile_eq_nil_iff.mpr (List.all_eq_true.mp hblank)
    have hnone : field.trimmed = "" := by
      rw [Field.trimmed, trim, trimChars, hempty]
      rfl
    obtain ⟨_, _, _, hspan⟩ := hcovers
    dsimp only at hspan
    rw [hspan, hnone]
    rfl
  · exact hcovers.isWithin.stop_le

/-- Every field of a preamble is a line with a name, a colon and a value, which starts behind the colon. For every
separator that is not empty, the items of the value tile it: they are its parts between the separators without the blanks
around them, in order, each of them where it is said to be, with only blanks and separators between them and only blanks
at both ends. In the same way the range of the value holds it without the blanks around it; of a blank value it is
empty. -/
theorem items_tile {text separator : String} {preamble : Preamble} {closing : Nat}
    (hparse : Preamble.parse (Lines.ofString text) = .ok (preamble, closing)) (hfield : field ∈ preamble.fields)
    (hne : separator ≠ "") :
    field.Shows (Lines.ofString text) field.line ∧ field.valueOffset = (field.name ++ ":").utf8ByteSize ∧
      field.IsTiled separator (field.items separator) ∧ field.IsValueRange field.valueRange := by
  have hshows := Preamble.shows_of_mem hparse hfield
  refine ⟨hshows, ?_, hshows.isTiled hne, hshows.isValueRange⟩
  rw [valueOffset_eq, byteLength_toList]

/-- Overlapping separators of two characters, blanks of several bytes, a part without anything in it, and a blank
value. -/
theorem items_tile_blanks :
    let text := "---\nk: a;;; ü\u3000;;;;b \ne: \u00a0\n---\n"
    ∃ listed blank closing, Preamble.parse (Lines.ofString text) = .ok (⟨[listed, blank]⟩, closing) ∧
      listed.items ";;" = [("a", ⟨3, 4⟩), ("; ü", ⟨6, 10⟩), ("", ⟨15, 15⟩), ("b", ⟨17, 18⟩)] ∧
      listed.IsTiled ";;" (listed.items ";;") ∧ isBlankText blank.value ∧ blank.valueRange = ⟨5, 5⟩ ∧
      blank.IsValueRange blank.valueRange := by
  intro text
  have hparse : Preamble.parse (Lines.ofString text) = .ok
      (⟨[⟨"k", " a;;; ü\u3000;;;;b ", 2, ⟨4, 23⟩, "k: a;;; ü\u3000;;;;b "⟩,
        ⟨"e", " \u00a0", 3, ⟨24, 29⟩, "e: \u00a0"⟩]⟩, 4) := by decide +kernel
  exact ⟨_, _, _, hparse, by decide +kernel, (items_tile hparse (by simp) (by decide)).2.2.1, by decide, by decide,
    (items_tile hparse (by simp) (show "," ≠ "" by decide)).2.2.2⟩

end Field

end ProposalCheck

import ProposalCheck.Proofs.Document.Preamble
import ProposalCheck.Proofs.Text.Split

/-!
# Values and their items

A value stands in its line behind the name and the colon, with blanks around it. A list falls into parts
between its separators, and an item is a part without the blanks around it. Both are found where the field
says that they are.

## Main definitions

* `Surrounds`: blanks around a text that has none at its ends
* `Listing`: the items of a list, with the bytes that they take

## Main results

* `surrounds_trimChars`: trimming takes away the blanks around a text
* `Field.valueRange_covers`: where the value stands
* `Field.listing_items`: the items of a value, and where they stand
* `Document.shows_of_mem`: every field of a document shows its line
-/

namespace ProposalCheck

variable {cs front before text after : List Char} {separator : Char}

/-! ### Blanks around a text -/

/-- Characters are a text with blanks before and after it. The text itself has none at its ends. -/
structure Surrounds (before text after cs : List Char) : Prop where
  eq : cs = before ++ (text ++ after)
  before : ∀ c ∈ before, isBlank c
  after : ∀ c ∈ after, isBlank c
  head : ∀ c, text.head? = some c → isBlank c = false
  last : ∀ c, text.getLast? = some c → isBlank c = false

theorem head?_dropWhile {c : Char} (h : (cs.dropWhile isBlank).head? = some c) : isBlank c = false := by
  induction cs with
  | nil => cases h
  | cons d cs ih =>
    rw [List.dropWhile_cons] at h
    split_ifs at h with hblank
    · exact ih h
    · obtain rfl := Option.some.inj h
      simpa using hblank

theorem of_mem_takeWhile_isBlank {c : Char} (h : c ∈ cs.takeWhile isBlank) : isBlank c :=
  List.all_eq_true.mp List.all_takeWhile c h

/-- Characters end with the blanks that are taken away behind them. -/
theorem eq_trimEndChars_append (cs : List Char) :
    cs = trimEndChars cs ++ (cs.reverse.takeWhile isBlank).reverse := by
  rw [trimEndChars, ← List.reverse_append, List.takeWhile_append_dropWhile, List.reverse_reverse]

theorem getLast?_trimEndChars {c : Char} (h : (trimEndChars cs).getLast? = some c) : isBlank c = false := by
  rw [trimEndChars, List.getLast?_reverse] at h
  exact head?_dropWhile h

/-- Nothing in front of a character that is no blank is taken away. -/
theorem trimEndChars_append_cons {c : Char} (hc : isBlank c = false) (pre post : List Char) :
    trimEndChars (pre ++ c :: post) = pre ++ c :: trimEndChars post := by
  rw [trimEndChars, List.reverse_append, List.reverse_cons, List.append_assoc, List.dropWhile_append]
  split_ifs with hempty
  · rw [trimEndChars, List.isEmpty_iff.mp hempty]
    simp [hc]
  · simp [trimEndChars]

/-- What is left of the end of a text does not depend on what is in front. -/
theorem trimEndChars_suffix (pre post : List Char) : trimEndChars post <:+ trimEndChars (pre ++ post) := by
  rw [trimEndChars, trimEndChars, List.reverse_append, List.dropWhile_append]
  split_ifs with hempty
  · rw [List.isEmpty_iff.mp hempty]
    exact List.nil_suffix
  · rw [List.reverse_append, List.reverse_reverse]
    exact List.suffix_append _ _

theorem head?_trimEndChars {c : Char} (h : (trimEndChars cs).head? = some c) : cs.head? = some c := by
  rw [eq_trimEndChars_append cs, List.head?_append, h]
  rfl

/-- Trimming takes away the blanks on both sides. -/
theorem surrounds_trimChars (cs : List Char) :
    Surrounds (cs.takeWhile isBlank) (trimChars cs) ((trimStartChars cs).reverse.takeWhile isBlank).reverse cs := by
  refine ⟨?_, fun c hc => of_mem_takeWhile_isBlank hc, fun c hc => ?_, fun c hc => ?_,
    fun c hc => getLast?_trimEndChars hc⟩
  · rw [trimChars, ← eq_trimEndChars_append, trimStartChars, List.takeWhile_append_dropWhile]
  · exact of_mem_takeWhile_isBlank (List.mem_reverse.mp hc)
  · exact head?_dropWhile (head?_trimEndChars hc)

/-- The trimmed form of a text that starts at an offset stands where it is said to. -/
theorem trimmedRange_eq (offset : Nat) (cs : List Char) :
    Field.trimmedRange offset (String.ofList cs) =
      ⟨offset + byteLength (cs.takeWhile isBlank),
        offset + byteLength (cs.takeWhile isBlank) + byteLength (trimChars cs)⟩ := by
  rw [Field.trimmedRange, leadingBlanks, trim, String.toList_ofList, ← byteLength_toList, ← byteLength_toList,
    String.toList_ofList, String.toList_ofList]

/-! ### Lists -/

/-- The items of a list that stands behind `front` in its line, each with the bytes that it takes: parts
between separators, without the blanks around them. -/
inductive Listing (separator : Char) : List Char → List Char → List (String × Span) → Prop
  | last {front part before text after : List Char} (hpart : separator ∉ part)
      (hblanks : Surrounds before text after part) :
      Listing separator front part
        [(String.ofList text,
          ⟨byteLength (front ++ before), byteLength (front ++ before) + byteLength text⟩)]
  | more {front part before text after rest : List Char} {items : List (String × Span)}
      (hpart : separator ∉ part) (hblanks : Surrounds before text after part)
      (hrest : Listing separator (front ++ part ++ [separator]) rest items) :
      Listing separator front (part ++ separator :: rest)
        ((String.ofList text,
          ⟨byteLength (front ++ before), byteLength (front ++ before) + byteLength text⟩) :: items)

/-- An item of a list stands in its line where it is said to. -/
theorem Listing.covers {items : List (String × Span)} (h : Listing separator front cs items) :
    ∀ item ∈ items, item.2.Covers (front ++ cs) item.1.toList := by
  induction h with
  | @last front part before text after hpart hblanks =>
    intro item hitem
    obtain rfl := List.mem_singleton.mp hitem
    rw [hblanks.eq, ← List.append_assoc, String.toList_ofList]
    exact Span.covers_append _ _ _
  | @more front part before text after rest items hpart hblanks hrest ih =>
    intro item hitem
    rcases List.mem_cons.mp hitem with rfl | hitem
    · rw [hblanks.eq, List.append_assoc, List.append_assoc, ← List.append_assoc front, String.toList_ofList]
      exact Span.covers_append _ _ _
    · simpa using ih item hitem

/-- There is always an item. -/
theorem Listing.ne_nil {items : List (String × Span)} (h : Listing separator front cs items) : items ≠ [] := by
  cases h <;> exact List.cons_ne_nil _ _

namespace Field

variable {field : Field} {lines : Lines} {line : Nat}

/-- The item of a part that stands behind `front` in its line. -/
def itemAt (front part : List Char) : String × Span :=
  (String.ofList (trimChars part), ⟨byteLength (front ++ part.takeWhile isBlank),
    byteLength (front ++ part.takeWhile isBlank) + byteLength (trimChars part)⟩)

theorem placeItems_cons (gap : Nat) (front part : List Char) (rest : List String) :
    placeItems gap (byteLength front) (String.ofList part :: rest) =
      itemAt front part :: placeItems gap (byteLength (front ++ part) + gap) rest := by
  rw [placeItems, trimmedRange_eq, trim, String.toList_ofList, itemAt, byteLength_append, byteLength_append,
    ← byteLength_toList, String.toList_ofList]

/-- The parts of a list are its items. -/
theorem listing_placeItems (front cs : List Char) :
    Listing separator front cs
      (placeItems separator.utf8Size (byteLength front)
        ((splitOnChars [separator] 0 cs).map String.ofList)) := by
  have hsplits := splits_splitOnChars (List.cons_ne_nil separator []) 0 cs
  rw [List.drop_zero] at hsplits
  generalize splitOnChars [separator] 0 cs = parts at hsplits
  induction hsplits generalizing front with
  | @last part hpart =>
    rw [List.map_singleton, placeItems_cons]
    exact .last (fun hmem => hpart (List.singleton_infix_iff _ _ |>.mpr hmem)) (surrounds_trimChars part)
  | @more part rest parts hfirst _ ih =>
    -- the first separator ends the part, so none stands in it
    have hmem : separator ∉ part := by
      intro hmem
      obtain ⟨before, after, rfl⟩ := List.append_of_mem hmem
      have hle := hfirst before (after ++ [separator] ++ rest) (by simp)
      rw [List.length_append, List.length_cons] at hle
      omega
    have hgap : byteLength (front ++ part) + separator.utf8Size = byteLength (front ++ part ++ [separator]) := by
      rw [byteLength_append _ [separator]]
      rfl
    rw [List.map_cons, placeItems_cons, hgap, List.append_assoc part]
    exact .more hmem (surrounds_trimChars part) (ih _)

/-- The texts of items are the parts without the blanks around them. -/
theorem map_placeItems (gap offset : Nat) (parts : List String) :
    (placeItems gap offset parts).map (·.1) = parts.map trim := by
  induction parts generalizing offset with
  | nil => rfl
  | cons part rest ih => rw [placeItems, List.map_cons, List.map_cons, ih]

/-! ### Values -/

theorem valueOffset_eq (field : Field) : field.valueOffset = byteLength (field.name ++ ":").toList := by
  rw [valueOffset, byteLength_toList, String.utf8ByteSize_append]
  rfl

/-- The items of a value stand in the line of the field. -/
theorem listing_items (field : Field) :
    Listing ',' (field.name ++ ":").toList field.value.toList (field.items ",") := by
  rw [items, splitAt, valueOffset_eq]
  exact listing_placeItems _ _

theorem Shows.source_eq (h : field.Shows lines line) :
    field.source.toList = (field.name ++ ":").toList ++ field.value.toList := by
  rw [← h.parts, String.toList_append]

/-- The value without the blanks around it stands in the line of the field. -/
theorem Shows.valueRange_covers (h : field.Shows lines line) :
    field.valueRange.Covers field.source.toList field.trimmed.toList := by
  have hrange := trimmedRange_eq field.valueOffset field.value.toList
  rw [String.ofList_toList] at hrange
  have hblanks := surrounds_trimChars field.value.toList
  rw [valueRange, hrange, valueOffset_eq, h.source_eq, trimmed, trim, String.toList_ofList, ← byteLength_append]
  have hsplit : (field.name ++ ":").toList ++ field.value.toList = (field.name ++ ":").toList ++
      field.value.toList.takeWhile isBlank ++ (trimChars field.value.toList ++
        ((trimStartChars field.value.toList).reverse.takeWhile isBlank).reverse) := by
    rw [List.append_assoc, ← hblanks.eq]
  exact ⟨_, _, hsplit, rfl⟩

theorem Shows.items_covers (h : field.Shows lines line) :
    ∀ item ∈ field.items ",", item.2.Covers field.source.toList item.1.toList := by
  rw [h.source_eq]
  exact field.listing_items.covers

end Field

/-! ### Fields of a document -/

/-- Every field of a preamble shows its line. -/
theorem Preamble.shows_of_mem {lines : Lines} {preamble : Preamble} {closing : Nat} {field : Field}
    (h : parse lines = .ok (preamble, closing)) (hfield : field ∈ preamble.fields) : field.Shows lines field.line := by
  obtain ⟨k, hk⟩ := List.mem_iff_getElem?.mp hfield
  obtain ⟨-, -, -, hshows⟩ := h ▸ isOutcome_parse lines
  have hfield := hshows k field hk
  rwa [hfield.line_eq]

namespace Document

variable {document : Document} {source : String} {origin : Option String} {field : Field}

/-- Every field of a document shows its line. -/
theorem shows_of_mem (h : ofString source origin = .ok document) (hfield : field ∈ document.preamble.fields) :
    field.Shows document.lines field.line := by
  obtain ⟨closing, nodes, hpreamble, -, heq⟩ := exists_of_ofString h
  rw [heq]
  exact Preamble.shows_of_mem hpreamble hfield

end Document

end ProposalCheck

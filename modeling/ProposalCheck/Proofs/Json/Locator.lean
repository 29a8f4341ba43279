import ProposalCheck.Proofs.Json.Extent
import ProposalCheck.Proofs.Json.Part
import ProposalCheck.Proofs.Json.Place
import ProposalCheck.Proofs.Yaml.Nodes

/-!
# What the locator shows

The locator finds the parts of a text by the names that YAML reads. The part that it finds stands in the
text, and its places are found where they are unless byte order marks stand in front of them. It is the
part of the value that JSON reads where the names of an object stay apart when they are read by YAML.

## Main definitions

* `Locator.IsStart`: a part is said to start where it stands
* `Json.IsKey`: what stands in front of the value that a path leads to
* `Json.Shows`: bytes of a text show a part of its value

## Main results

* `Locator.isStart_of_lookup`: what the locator knows of a path is where a part is said to start
* `Locator.span?_shows`: the bytes that the locator gives show the part
-/

namespace ProposalCheck.Locator

open Json (Form Items Members ItemSlot MemberSlot Part Stands Glyph nameChars)
open Yaml (nameOf?)

section parts

variable {start : Yaml.Cursor} {lead : Nat} {root : Form} {path : List PathItem} {found : PartStart}

/-- A part of a form is said to start where it stands, if the form stands behind a cursor. -/
def IsStart (start : Yaml.Cursor) (lead : Nat) (root : Form) (path : List PathItem) (found : PartStart) : Prop :=
  ∃ part, Stands nameOf? root path part ∧ found.anchor = placeAt start (lead + part.before.length) ∧
    found.value = placeAt start (lead + part.before.length + part.key.length)

theorem placeOf_of_matches {form : Form} {k : Nat} {node : Yaml.Node} (h : form.Matches start k node) :
    placeOf node = placeAt start k := by
  cases form with
  | bare | str =>
    obtain ⟨text, rfl⟩ := h
    rfl
  | emptyArr | emptyObj =>
    obtain rfl := h
    rfl
  | arr | obj =>
    obtain ⟨parts, -, rfl⟩ := h
    rfl

/-- The parts of a mapping whose first key is a text in quotes. -/
theorem of_mem_entryParts {front : List PathItem} {seen : List Yaml.Scalar} {text : String}
    {place : Yaml.Place} {node : Yaml.Node} {rest : List (Yaml.Node × Yaml.Node)}
    (h : (path, found) ∈ entryParts front seen ((.scalar place none text false, node) :: rest)) :
    (path = front ++ [.name text] ∧ found = ⟨⟨place.line, place.column⟩, placeOf node⟩) ∨
      (path, found) ∈ partsBelow (front ++ [.name text]) node ∨
      ∃ seen, (path, found) ∈ entryParts front seen rest := by
  have hscalar : Yaml.Scalar.ofNode? (.scalar place none text false) = some (.data (.str text)) := rfl
  simp only [entryParts, hscalar] at h
  split at h
  · exact .inr (.inr ⟨_, h⟩)
  · simp only [List.cons_append, List.mem_cons, List.mem_append, Prod.mk.injEq] at h
    rcases h with h | h | h
    · exact .inl h
    · exact .inr (.inl h)
    · exact .inr (.inr ⟨_, h⟩)

mutual

/-- The parts below the node of a part start where they stand. -/
theorem isStart_of_mem_partsBelow {front : List PathItem} {form : Form} {whole : Part} {node : Yaml.Node}
    (hform : whole.form = form) (hwhole : Stands nameOf? root front whole)
    (hnode : form.Matches start (lead + whole.before.length + whole.key.length) node)
    (h : (path, found) ∈ partsBelow front node) : IsStart start lead root path found := by
  cases form with
  | bare | str =>
    obtain ⟨text, rfl⟩ := hnode
    simp [partsBelow] at h
  | emptyArr | emptyObj =>
    obtain rfl := hnode
    simp [partsBelow, itemParts, entryParts] at h
  | arr gap items =>
    obtain ⟨nodes, hnodes, rfl⟩ := hnode
    rw [partsBelow] at h
    -- the items stand behind the opening bracket and its blanks
    refine isStart_of_mem_itemParts items (whole.before ++ (whole.key ++ '[' :: gap))
      (']' :: whole.after) ?_ ?_ h
    · intro index slot hslot
      simpa [Part.item] using hwhole.item hform hslot
    · have hlength : lead + (whole.before ++ (whole.key ++ '[' :: gap)).length =
          lead + whole.before.length + whole.key.length + 1 + gap.length := by
        simp only [List.length_append, List.length_cons]
        omega
      rwa [hlength]
  | obj gap members =>
    obtain ⟨entries, hentries, rfl⟩ := hnode
    rw [partsBelow] at h
    -- the members stand behind the opening bracket and its blanks
    refine isStart_of_mem_entryParts members (whole.before ++ (whole.key ++ '\x7b' :: gap))
      ('\x7d' :: whole.after) ?_ ?_ h
    · intro slot hslot name hname
      simpa [Part.member] using hwhole.member hform hslot hname
    · have hlength : lead + (whole.before ++ (whole.key ++ '\x7b' :: gap)).length =
          lead + whole.before.length + whole.key.length + 1 + gap.length := by
        simp only [List.length_append, List.length_cons]
        omega
      rwa [hlength]

/-- The same for items that stand after other characters. -/
theorem isStart_of_mem_itemParts {front : List PathItem} (items : Items) (done tail : List Char)
    {index : Nat} {nodes : List Yaml.Node}
    (hslots : ∀ (i : Nat) (slot : ItemSlot), items.slots[i]? = some slot →
      Stands nameOf? root (front ++ [.index (index + i)])
        ⟨done ++ slot.before, [], slot.item, slot.after ++ tail⟩)
    (hnodes : items.Matches start (lead + done.length) nodes)
    (h : (path, found) ∈ itemParts front index nodes) : IsStart start lead root path found := by
  cases items with
  | one item after =>
    obtain ⟨node, hnode, rfl⟩ := hnodes
    have hitem := hslots 0 _ rfl
    simp only [itemParts, List.append_nil, List.mem_cons] at h
    rcases h with h | h
    · obtain ⟨rfl, rfl⟩ := Prod.mk.inj h
      exact ⟨_, hitem, by simp [placeOf_of_matches hnode], by simp [placeOf_of_matches hnode]⟩
    · exact isStart_of_mem_partsBelow rfl hitem (by simpa using hnode) h
  | more item after before rest =>
    obtain ⟨node, others, hnode, hothers, rfl⟩ := hnodes
    have hitem := hslots 0 _ rfl
    simp only [itemParts, List.mem_cons, List.mem_append] at h
    -- the item itself, a part below it, or a part of the items behind it
    rcases h with (h | h) | h
    · obtain ⟨rfl, rfl⟩ := Prod.mk.inj h
      exact ⟨_, hitem, by simp [placeOf_of_matches hnode], by simp [placeOf_of_matches hnode]⟩
    · exact isStart_of_mem_partsBelow rfl hitem (by simpa using hnode) h
    · refine isStart_of_mem_itemParts rest (done ++ (item.chars ++ (after ++ ',' :: before))) tail ?_ ?_ h
      · intro i slot hslot
        have hlater := hslots (i + 1)
          { slot with before := item.chars ++ (after ++ ',' :: (before ++ slot.before)) }
          (by simp [Items.slots, hslot])
        simpa [Nat.add_comm, Nat.add_left_comm] using hlater
      · have hlength : lead + (done ++ (item.chars ++ (after ++ ',' :: before))).length =
            lead + done.length + item.chars.length + after.length + 1 + before.length := by
          simp only [List.length_append, List.length_cons]
          omega
        rwa [hlength]

/-- The same for members that stand after other characters. -/
theorem isStart_of_mem_entryParts {front : List PathItem} (members : Members) (done tail : List Char)
    {seen : List Yaml.Scalar} {entries : List (Yaml.Node × Yaml.Node)}
    (hslots : ∀ slot ∈ members.slots, ∀ name, nameOf? slot.name = some name →
      Stands nameOf? root (front ++ [.name name])
        ⟨done ++ slot.before, slot.key, slot.value, slot.after ++ tail⟩)
    (hentries : members.Matches start (lead + done.length) entries)
    (h : (path, found) ∈ entryParts front seen entries) : IsStart start lead root path found := by
  cases members with
  | one name gap gap' value after =>
    obtain ⟨text, node, hname, hnode, rfl⟩ := hentries
    have hmember := hslots _ List.mem_cons_self text hname
    rcases of_mem_entryParts h with ⟨rfl, rfl⟩ | h | ⟨_, h⟩
    · exact ⟨_, hmember, by simp [placeAt], by simp [placeOf_of_matches hnode, MemberSlot.key]⟩
    · exact isStart_of_mem_partsBelow rfl hmember (by simpa [MemberSlot.key] using hnode) h
    · simp [entryParts] at h
  | more name gap gap' value after before rest =>
    obtain ⟨text, node, others, hname, hnode, hothers, rfl⟩ := hentries
    have hmember := hslots _ List.mem_cons_self text hname
    -- the member itself, a part below its value, or a part of the members behind it
    rcases of_mem_entryParts h with ⟨rfl, rfl⟩ | h | ⟨_, h⟩
    · exact ⟨_, hmember, by simp [placeAt], by simp [placeOf_of_matches hnode, MemberSlot.key]⟩
    · exact isStart_of_mem_partsBelow rfl hmember (by simpa [MemberSlot.key] using hnode) h
    · refine isStart_of_mem_entryParts rest
        (done ++ (nameChars name gap gap' ++ (value.chars ++ (after ++ ',' :: before)))) tail ?_ ?_ h
      · intro slot hslot other hother
        have hlater := hslots
          { slot with
            before := nameChars name gap gap' ++ (value.chars ++ (after ++ ',' :: (before ++ slot.before))) }
          (List.mem_cons_of_mem _ (List.mem_map_of_mem hslot)) other hother
        simpa [MemberSlot.key] using hlater
      · have hlength : lead + (done ++ (nameChars name gap gap' ++
            (value.chars ++ (after ++ ',' :: before)))).length =
            lead + done.length + (nameChars name gap gap').length + value.chars.length + after.length + 1 +
              before.length := by
          simp only [List.length_append, List.length_cons]
          omega
        rwa [hlength]

end

end parts

/-! ### Looking up a path -/

theorem mem_of_lookup_insert {path other : List PathItem} {start found : PartStart}
    {parts : List (List PathItem × PartStart)} (h : (insert other start parts).lookup path = some found) :
    (path = other ∧ found = start) ∨ parts.lookup path = some found := by
  have hcons : ∀ (first : List PathItem) (start : PartStart) (parts : List (List PathItem × PartStart)),
      ((first, start) :: parts).lookup path = if path = first then some start else parts.lookup path := by
    intro first start parts
    by_cases hpath : path = first
    · simp [hpath]
    · simp [List.lookup_cons, hpath, beq_false_of_ne hpath]
  induction parts with
  | nil =>
    rw [insert, hcons] at h
    split_ifs at h with hpath
    · exact .inl ⟨hpath, (Option.some.inj h).symm⟩
    · simp at h
  | cons part parts ih =>
    obtain ⟨first, old⟩ := part
    -- the start of a path that is listed already is replaced where it stands
    by_cases hfirst : first = other
    · subst hfirst
      rw [insert, if_pos rfl, hcons] at h
      rw [hcons]
      split_ifs at h ⊢ with hpath
      · exact .inl ⟨hpath, (Option.some.inj h).symm⟩
      · exact .inr h
    · rw [insert, if_neg hfirst, hcons] at h
      rw [hcons]
      split_ifs at h ⊢
      · exact .inr h
      · exact ih h

/-- A place that is known of a path is the place of a part with that path. -/
theorem mem_of_lookup_foldl {path : List PathItem} {found : PartStart}
    (parts all : List (List PathItem × PartStart))
    (h : (parts.foldl (fun all part => insert part.1 part.2 all) all).lookup path = some found) :
    (path, found) ∈ parts ∨ all.lookup path = some found := by
  induction parts generalizing all with
  | nil => exact .inr h
  | cons part parts ih =>
    rcases ih _ h with hmem | hlookup
    · exact .inl (List.mem_cons_of_mem _ hmem)
    · rcases mem_of_lookup_insert hlookup with ⟨rfl, rfl⟩ | hlookup
      · exact .inl List.mem_cons_self
      · exact .inr hlookup

theorem not_isBlank_of_startsValue {c : Char} (h : Json.startsValue c) : isBlank c = false := by
  simp only [Json.startsValue, Bool.or_eq_true, decide_eq_true_eq] at h
  rcases h with ((h | rfl) | rfl) | rfl
  · have hword := not_endsWord_of_isBareChar h
    simp only [endsWord, Bool.or_eq_false_iff] at hword
    exact hword.1.1.1
  all_goals decide

/-- The place of the first character that is no blank is told as the reader of YAML tells it. -/
theorem firstDark_skip (cursor : Yaml.Cursor) {gap rest : List Char} (hgap : gap.all Json.isSpace)
    (hpaired : hasPairedReturns cursor.rest) (hrest : cursor.rest = gap ++ rest) :
    firstDark cursor.place.line cursor.place.column cursor.rest =
      firstDark (placeAt cursor gap.length).line (placeAt cursor gap.length).column rest := by
  induction gap generalizing cursor with
  | nil => rw [hrest]; rfl
  | cons c gap ih =>
    simp only [List.all_cons, Bool.and_eq_true] at hgap
    have hnext : cursor.next.rest = gap ++ rest := by rw [Yaml.Cursor.rest_next, hrest]; rfl
    have hcursor : cursor.next.place = cursor.place.after c (gap ++ rest).head? := by
      simp [Yaml.Cursor.next, hrest]
    have hpaired' : hasPairedReturns cursor.next.rest := by
      simpa [Yaml.Cursor.rest_next] using hasPairedReturns_drop hpaired 1
    -- one blank moves both on alike: a carriage return does not end a line, since a line feed follows it
    refine Eq.trans ?_ (ih _ hgap.2 hpaired' hnext)
    rw [hnext, hrest, hcursor, List.cons_append, firstDark]
    rw [hrest, List.cons_append] at hpaired
    simp only [hasPairedReturns, Bool.and_eq_true] at hpaired
    have hspace := hgap.1
    simp only [Json.isSpace, Bool.or_eq_true, decide_eq_true_eq] at hspace
    rcases hspace with ((rfl | rfl) | rfl) | rfl
    · simp [Yaml.Place.after, isBlank]
    · simp [Yaml.Place.after, isBlank]
    · simp [Yaml.Place.after]
    · have hhead : (gap ++ rest).head? = some '\n' := by simpa using hpaired.1
      simp [Yaml.Place.after, isBlank, hhead]

section span

variable {text : String} {locator : Locator} {form : Form} {lead trail : List Char}
  {path : List PathItem} {found : PartStart} {span : Span}

/-- The first dark character of a text is the first one of its form. -/
theorem firstDark_eq (hform : form.IsValid) (hlead : lead.all Json.isSpace)
    (htext : text.toList = lead ++ (form.chars ++ trail)) (hpaired : hasPairedReturns text.toList) :
    firstDark 0 0 text.toList = some (placeAt (.ofString text) lead.length) := by
  obtain ⟨c, more, hchars, hc⟩ := Form.exists_chars_eq_cons hform
  have hblank := not_isBlank_of_startsValue hc
  have hline : c ≠ '\n' := by
    rintro rfl
    simp [isBlank] at hblank
  refine (firstDark_skip (.ofString text) hlead hpaired htext).trans ?_
  simp [hchars, firstDark, hline, hblank]

/-- What is known of the parts of a node and of the whole is where they stand. -/
theorem isStart_of_lookup_parts {node : Yaml.Node} (hmatches : form.Matches (.ofString text) lead.length node)
    (hlookup : (([], ⟨placeAt (.ofString text) lead.length, placeAt (.ofString text) lead.length⟩) ::
      (partsBelow [] node).foldl (fun all part => insert part.1 part.2 all) []).lookup path = some found) :
    IsStart (.ofString text) lead.length form path found := by
  by_cases hpath : path = []
  · subst hpath
    obtain rfl : _ = found := by simpa using hlookup
    exact ⟨_, .root, rfl, rfl⟩
  · rw [List.lookup_cons, beq_false_of_ne hpath] at hlookup
    rcases mem_of_lookup_foldl _ _ hlookup with hmem | hnone
    · exact isStart_of_mem_partsBelow rfl .root (by simpa using hmatches) hmem
    · simp at hnone

/-- What the locator knows of a path is where a part stands. -/
theorem isStart_of_lookup (hform : form.IsValid) (hlead : lead.all Json.isSpace)
    (htrail : trail.all Json.isSpace) (htext : text.toList = lead ++ (form.chars ++ trail))
    (hpaired : hasPairedReturns text.toList) (h : ofText? text = some locator)
    (hlookup : locator.places.lookup path = some found) :
    IsStart (.ofString text) lead.length form path found := by
  have hdark := firstDark_eq hform hlead htext hpaired
  unfold ofText? at h
  split at h
  · rename_i node place hnode hplace
    obtain ⟨node', heq, hmatches⟩ := Yaml.exists_matches_of_ofText hform hlead htrail htext hnode
    obtain rfl := Option.some.inj heq
    obtain rfl := Option.some.inj (hdark.symm.trans hplace)
    obtain rfl := Option.some.inj h
    -- the locator places the whole by its first dark character, and a part by its node
    refine isStart_of_lookup_parts hmatches ?_
    have hplaceOf := placeOf_of_matches hmatches
    cases node with
    | scalar => exact hlookup
    | sequence | mapping =>
      rw [← hplaceOf]
      exact hlookup
  · rename_i place hnode hplace
    obtain ⟨node', heq, -⟩ := Yaml.exists_matches_of_ofText hform hlead htrail htext hnode
    cases heq
  · cases h

theorem text_of_ofText? (h : ofText? text = some locator) : locator.text = text.toList := by
  unfold ofText? at h
  split at h
  · obtain rfl := Option.some.inj h
    rfl
  · obtain rfl := Option.some.inj h
    rfl
  · cases h

/-- A part stands at its place in the text. -/
theorem toList_of_stands {names : List Glyph → Option String} {part : Part}
    (htext : text.toList = lead ++ (form.chars ++ trail)) (h : Stands names form path part) :
    text.toList = lead ++ (part.before ++ (part.key ++ (part.form.chars ++ (part.after ++ trail)))) := by
  rw [htext, h.chars]
  simp

/-- The bytes that the locator gives start where a part is found and end with what is found as its
value. -/
theorem exists_stands_of_span? (hform : form.IsValid) (hlead : lead.all Json.isSpace)
    (htrail : trail.all Json.isSpace) (htext : text.toList = lead ++ (form.chars ++ trail))
    (hpaired : hasPairedReturns text.toList) (h : ofText? text = some locator)
    (hspan : locator.span? path = some span) :
    ∃ part length, Stands nameOf? form path part ∧
      valueLength? (text.toList.drop
        (shownAt text.toList (lead.length + part.before.length + part.key.length))) = some length ∧
      span = ⟨byteLength (text.toList.take (shownAt text.toList (lead.length + part.before.length))),
        byteLength (text.toList.take
          (shownAt text.toList (lead.length + part.before.length + part.key.length) + length))⟩ := by
  simp only [span?, Option.bind_eq_bind, Option.bind_eq_some_iff, Option.pure_def, Option.some.injEq] at hspan
  obtain ⟨found, hlookup, first, hfirst, value, hvalue, length, hlength, rfl⟩ := hspan
  obtain ⟨part, hpart, hanchor, hstart⟩ := isStart_of_lookup hform hlead htrail htext hpaired h hlookup
  have hchars := congrArg List.length (toList_of_stands htext hpart)
  simp only [List.length_append] at hchars
  rw [text_of_ofText? h] at hfirst hvalue hlength ⊢
  rw [hanchor] at hfirst
  rw [hstart] at hvalue
  -- both places are turned back into offsets, the one of the key and the one of the value
  obtain rfl := Option.some.inj ((offset?_placeAt hpaired (by omega)).symm.trans hfirst)
  obtain rfl := Option.some.inj ((offset?_placeAt hpaired (by omega)).symm.trans hvalue)
  exact ⟨part, length, hpart, hlength, rfl⟩

/-- A part starts with the quote of its name or with the first character of its value. -/
theorem startsValue_of_stands {names : List Glyph → Option String} {part : Part} (hform : form.IsValid)
    (htext : text.toList = lead ++ (form.chars ++ trail)) (h : Stands names form path part) :
    ∃ c, text.toList[lead.length + part.before.length]? = some c ∧ Json.startsValue c := by
  have hchars := toList_of_stands htext h
  obtain ⟨c, more, hpart, hc⟩ : ∃ c more, part.key ++ part.form.chars = c :: more ∧ Json.startsValue c := by
    cases h with
    | root =>
      obtain ⟨c, more, hchars, hc⟩ := Form.exists_chars_eq_cons hform
      exact ⟨c, more, hchars, hc⟩
    | item h hform' hslot =>
      obtain ⟨c, more, hchars, hc⟩ := Form.exists_chars_eq_cons (((h.item hform' hslot).isValid hform).1)
      exact ⟨c, more, hchars, hc⟩
    | member => exact ⟨'"', _, rfl, by decide⟩
  refine ⟨c, ?_, hc⟩
  rw [hchars, ← List.append_assoc, ← List.length_append, List.getElem?_append_right (Nat.le_refl _),
    Nat.sub_self, ← List.append_assoc part.key, hpart]
  rfl

/-- The bytes that the locator gives start with a character and end with one, and neither of the two ends
a line. -/
theorem exists_chars_of_span? {value : Json} (hvalue : Json.decode text = .ok value)
    (hpaired : hasPairedReturns text.toList) (h : ofText? text = some locator)
    (hspan : locator.span? path = some span) :
    ∃ k m c d, k ≤ m ∧ text.toList[k]? = some c ∧ c ≠ '\n' ∧ text.toList[m]? = some d ∧ d ≠ '\n' ∧
      span = ⟨byteLength (text.toList.take k), byteLength (text.toList.take (m + 1))⟩ := by
  obtain ⟨form, ⟨hform, lead, trail, hlead, htrail, htext⟩, -⟩ := Json.exists_spells_of_decode hvalue
  obtain ⟨part, length, hpart, hlength, rfl⟩ :=
    exists_stands_of_span? hform hlead htrail htext hpaired h hspan
  have hchars := congrArg List.length (toList_of_stands htext hpart)
  simp only [List.length_append] at hchars
  obtain ⟨n, d, rfl, hd, hdline⟩ := endsDark_of_valueLength? hlength
  obtain ⟨c, hc, hstarts⟩ := startsValue_of_stands hform htext hpart
  have hcline : c ≠ '\n' := by
    rintro rfl
    simp [Json.startsValue, Json.isBareChar] at hstarts
  obtain ⟨hk, hget⟩ := List.getElem?_eq_some_iff.mp hc
  -- byte order marks move the start to the front, but not over a line feed
  have hshown := getElem?_shownAt_ne hk (by simpa [hc] using hcline)
  obtain ⟨c', hc'⟩ : ∃ c', text.toList[shownAt text.toList (lead.length + part.before.length)]? = some c' :=
    ⟨_, List.getElem?_eq_getElem (Nat.lt_of_le_of_lt (shownAt_le _ _) hk)⟩
  rw [List.getElem?_drop] at hd
  have hmono : shownAt text.toList (lead.length + part.before.length) ≤
      shownAt text.toList (lead.length + part.before.length + part.key.length) :=
    shownAt_mono (Nat.le_add_right _ _) (by omega)
  exact ⟨_, _, c', d, by omega, hc', by simpa [hc'] using hshown, hd, hdline, rfl⟩

/-- The same bytes, as those of characters with what stands in front of them and behind them. -/
theorem exists_append_of_span? {value : Json} (hvalue : Json.decode text = .ok value)
    (hpaired : hasPairedReturns text.toList) (h : ofText? text = some locator)
    (hspan : locator.span? path = some span) :
    ∃ before middle after c d, text.toList = before ++ (middle ++ after) ∧
      middle.head? = some c ∧ c ≠ '\n' ∧ middle.getLast? = some d ∧ d ≠ '\n' ∧
      span = ⟨byteLength before, byteLength before + byteLength middle⟩ := by
  obtain ⟨k, m, c, d, hkm, hc, hcline, hd, hdline, rfl⟩ :=
    exists_chars_of_span? hvalue hpaired h hspan
  have hm := (List.getElem?_eq_some_iff.mp hd).1
  -- up to the end of the bytes there is what stands in front of them and then they themselves
  have htake : text.toList.take (m + 1) = text.toList.take k ++ (text.toList.take (m + 1)).drop k := by
    have hk := List.take_take (l := text.toList) (i := k) (j := m + 1)
    rw [Nat.min_eq_left (Nat.le_succ_of_le hkm)] at hk
    rw [← hk, List.take_append_drop]
  refine ⟨text.toList.take k, (text.toList.take (m + 1)).drop k, text.toList.drop (m + 1), c, d,
    ?_, ?_, hcline, ?_, hdline, ?_⟩
  · rw [← List.append_assoc, ← htake, List.take_append_drop]
  · rw [List.head?_drop, List.getElem?_take_of_lt (Nat.lt_succ_of_le hkm), hc]
  · rw [List.getLast?_drop, List.length_take, if_neg (by omega), List.getLast?_take,
      if_neg (Nat.succ_ne_zero m), Nat.add_sub_cancel, hd]
    rfl
  · rw [← byteLength_append, ← htake]

end span

end ProposalCheck.Locator

namespace ProposalCheck.Json

open Yaml (nameOf?)

/-- What stands in front of the value that a path leads to: for a member its name as it is written and a
colon, with nothing but blanks around the colon; for an item and for a whole value nothing. -/
def IsKey (path : List PathItem) (key : List Char) : Prop :=
  match path.getLast? with
  | some (.name name) => ∃ literal gap gap', decode (String.ofList literal) = .ok (.str name) ∧
      gap.all isSpace ∧ gap'.all isSpace ∧ key = literal ++ (gap ++ ':' :: gap')
  | _ => key = []

/-- Bytes of a text that is spelled by a form show the part of its value that a path leads to: they are
those of the part of the form that JSON finds there, with its key, and what follows the key is the text of
the value. -/
def Shows (form : Form) (text : String) (path : List PathItem) (value : Json) (span : Span) : Prop :=
  ∃ part lead trail, Stands jsonName form path part ∧ IsKey path part.key ∧
    decode (String.ofList part.form.chars) = .ok value ∧
    text.toList = lead ++ (part.before ++ (part.key ++ (part.form.chars ++ (part.after ++ trail)))) ∧
    span = ⟨byteLength (lead ++ part.before),
      byteLength (lead ++ (part.before ++ (part.key ++ part.form.chars)))⟩

/-- The text in front of a part is its key. -/
theorem Stands.isKey {root : Form} (hroot : root.IsValid) {path : List PathItem} {part : Part}
    (h : Stands jsonName root path part) : IsKey path part.key := by
  cases h with
  | root => rfl
  | item h hform hslot => simp [IsKey, Part.item]
  | @member path whole gap members name slot h hform hslot hname =>
    have hwhole := (h.isValid hroot).1
    rw [hform] at hwhole
    have hslot := (hwhole.2.of_mem_slots hslot []).1
    obtain rfl := Option.some.inj hname
    have hliteral : decode (String.ofList (Form.str slot.name).chars) = .ok (.str (Glyph.text slot.name)) :=
      Form.decode_chars hslot.name
    rw [IsKey, List.getLast?_append]
    exact ⟨_, slot.gap, slot.gap', hliteral, hslot.gap, hslot.gap', by
      simp [Part.member, MemberSlot.key, nameChars, Form.chars]⟩

end ProposalCheck.Json

namespace ProposalCheck.Locator

open Json (Form Members Items Glyph)
open Yaml (nameOf?)

/-- The bytes that the locator gives for a path show the part of the value that the path leads to, if the
names in each object stay apart when YAML reads them, every carriage return stands in front of a line feed,
and there is no byte order mark. -/
theorem span?_shows {text : String} {form : Json.Form} {value part : Json} {locator : Locator}
    {path : List PathItem} {span : Span} (hform : form.Spells text)
    (happart : form.NamesApart nameOf?) (hpaired : hasPairedReturns text.toList)
    (hmark : '\ufeff' ∉ text.toList) (hvalue : Json.decode text = .ok value)
    (hpart : value.part? path = some part) (hlocator : ofText? text = some locator)
    (hspan : locator.span? path = some span) : Json.Shows form text path part span := by
  obtain rfl : form.value = value := Except.ok.inj (hform.decode.symm.trans hvalue)
  obtain ⟨hvalid, lead, trail, hlead, htrail, htext⟩ := hform
  obtain ⟨found, hfound, rfl⟩ := Json.exists_stands_of_part? hvalid hpart
  obtain ⟨part, length, hstands, hlength, rfl⟩ :=
    exists_stands_of_span? hvalid hlead htrail htext hpaired hlocator hspan
  -- names are apart, so the part that the locator found is the one that JSON reads
  obtain rfl := hstands.unique happart hfound
  simp only [shownAt_of_no_mark hmark] at hlength ⊢
  have hchars := toList_of_stands htext hfound
  have hends : Json.EndsValue (part.after ++ trail) := (hfound.isValid hvalid).2 trail
    (by simpa using Json.EndsValue.append htrail Json.endsValue_nil)
  have hdrop : text.toList.drop (lead.length + part.before.length + part.key.length) =
      part.form.chars ++ (part.after ++ trail) := by
    rw [hchars, ← List.append_assoc, ← List.append_assoc, List.drop_left']
    simp [Nat.add_assoc]
  rw [hdrop, valueLength?_chars (hfound.isValid hvalid).1 hends] at hlength
  obtain rfl := Option.some.inj hlength
  refine ⟨part, lead, trail, hfound, hfound.isKey hvalid, Json.Form.decode_chars (hfound.isValid hvalid).1,
    hchars, ?_⟩
  have hfirst : text.toList.take (lead.length + part.before.length) = lead ++ part.before := by
    rw [hchars, ← List.append_assoc, List.take_left']
    simp
  have hlast : text.toList.take (lead.length + part.before.length + part.key.length +
      part.form.chars.length) = lead ++ (part.before ++ (part.key ++ part.form.chars)) := by
    rw [hchars]
    have : lead ++ (part.before ++ (part.key ++ (part.form.chars ++ (part.after ++ trail)))) =
        (lead ++ (part.before ++ (part.key ++ part.form.chars))) ++ (part.after ++ trail) := by simp
    rw [this, List.take_left']
    simp [Nat.add_assoc]
  rw [hfirst, hlast]

/-- The member of the innermost of some nested values is shown with its key. -/
theorem span?_shows_nested :
    ∃ form locator, form.Spells "\x7b\"a\": [\x7b\"b\": \"c\"\x7d], \"d\": \"e\"\x7d" ∧
      ofText? "\x7b\"a\": [\x7b\"b\": \"c\"\x7d], \"d\": \"e\"\x7d" = some locator ∧
      locator.span? [.name "a", .index 0, .name "b"] = some ⟨8, 16⟩ ∧
      Json.Shows form "\x7b\"a\": [\x7b\"b\": \"c\"\x7d], \"d\": \"e\"\x7d" [.name "a", .index 0, .name "b"]
        (.str "c") ⟨8, 16⟩ := by
  let inner : Form := .obj [] (.one [.plain 'b'] [] [' '] (.str [.plain 'c']) [])
  let form : Form := .obj [] (.more [.plain 'a'] [] [' '] (.arr [] (.one inner [])) [] [' ']
    (.one [.plain 'd'] [] [' '] (.str [.plain 'e']) []))
  have hform : form.Spells "\x7b\"a\": [\x7b\"b\": \"c\"\x7d], \"d\": \"e\"\x7d" := by
    refine ⟨?_, [], [], rfl, rfl, rfl⟩
    simp [form, inner, Form.IsValid, Members.IsValid, Items.IsValid, Glyph.IsValid, Json.isSpace]
  have happart : form.NamesApart nameOf? := by
    have ha : nameOf? [.plain 'a'] = some "a" ∧ Glyph.text [.plain 'a'] = "a" := by decide
    have hd : nameOf? [.plain 'd'] = some "d" ∧ Glyph.text [.plain 'd'] = "d" := by decide
    simp [form, inner, Form.NamesApart, Members.NamesApart, Items.NamesApart, Json.AreApart, Members.slots,
      ha, hd, Json.jsonName]
  have hspan : (ofText? "\x7b\"a\": [\x7b\"b\": \"c\"\x7d], \"d\": \"e\"\x7d").bind
      (·.span? [.name "a", .index 0, .name "b"]) = some ⟨8, 16⟩ := by decide +kernel
  obtain ⟨locator, hlocator, hspan⟩ := Option.bind_eq_some_iff.mp hspan
  exact ⟨form, locator, hform, hlocator, hspan, span?_shows hform happart (by decide) (by decide)
    hform.decode rfl hlocator hspan⟩

/-- A front of a text in ASCII characters is told by its bytes. -/
theorem eq_take_of_byteLength {cs front : List Char} {n : Nat} (hfront : front <+: cs)
    (hbytes : ∀ k ≤ cs.length, byteLength (cs.take k) = k) (h : byteLength front = n) : front = cs.take n := by
  have htake := List.prefix_iff_eq_take.mp hfront
  rw [htake, hbytes _ hfront.length_le] at h
  rw [← h]
  exact htake

/-- Of two members with the same name the value is the later one, but the earlier one is shown. -/
theorem span?_not_shows_repeated :
    ∃ value locator, Json.decode "\x7b\"a\": \"b\", \"a\": \"c\"\x7d" = .ok value ∧
      value.part? [.name "a"] = some (.str "c") ∧
      ofText? "\x7b\"a\": \"b\", \"a\": \"c\"\x7d" = some locator ∧
      locator.span? [.name "a"] = some ⟨1, 9⟩ ∧
      ∀ form, ¬Json.Shows form "\x7b\"a\": \"b\", \"a\": \"c\"\x7d" [.name "a"] (.str "c") ⟨1, 9⟩ := by
  let form : Form := .obj [] (.more [.plain 'a'] [] [' '] (.str [.plain 'b']) [] [' ']
    (.one [.plain 'a'] [] [' '] (.str [.plain 'c']) []))
  have hform : form.Spells "\x7b\"a\": \"b\", \"a\": \"c\"\x7d" := by
    refine ⟨?_, [], [], rfl, rfl, rfl⟩
    simp [form, Form.IsValid, Members.IsValid, Glyph.IsValid, Json.isSpace]
  have hspan : (ofText? "\x7b\"a\": \"b\", \"a\": \"c\"\x7d").bind (·.span? [.name "a"]) = some ⟨1, 9⟩ := by
    decide +kernel
  obtain ⟨locator, hlocator, hspan⟩ := Option.bind_eq_some_iff.mp hspan
  refine ⟨form.value, locator, hform.decode, rfl, hlocator, hspan, ?_⟩
  rintro form ⟨part, lead, trail, -, -, hdecode, htext, hbytes⟩
  have hascii : ∀ k ≤ "\x7b\"a\": \"b\", \"a\": \"c\"\x7d".toList.length,
      byteLength ("\x7b\"a\": \"b\", \"a\": \"c\"\x7d".toList.take k) = k := by decide
  obtain ⟨hstart, hstop⟩ := Span.mk.inj hbytes
  have hfront := eq_take_of_byteLength ⟨part.key ++ (part.form.chars ++ (part.after ++ trail)), by
    simp [htext]⟩ hascii hstart.symm
  have hwhole := eq_take_of_byteLength ⟨part.after ++ trail, by simp [htext]⟩ hascii hstop.symm
  -- the value would be the end of what is shown, but no end of it is the later value
  have hshown : part.key ++ part.form.chars = "\"a\": \"b\"".toList := by
    rw [← List.append_assoc, hfront] at hwhole
    simpa using hwhole
  have hsuffix : part.form.chars = "\"a\": \"b\"".toList.drop part.key.length := by
    rw [← hshown, List.drop_left]
  have hlength : part.key.length < 9 := by
    have := congrArg List.length hshown
    simp at this
    omega
  have hnone : ∀ k < 9, (Json.decode (String.ofList ("\"a\": \"b\"".toList.drop k))).toOption.any
      (Json.equalWith false (.str "c")) = false := by decide +kernel
  have hsame : Json.equalWith false (.str "c") (.str "c") = true := by rw [Json.equalWith, beq_self_eq_true]
  have hend := hnone _ hlength
  rw [← hsuffix, hdecode] at hend
  exact Bool.noConfusion (hend.symm.trans hsame)

end ProposalCheck.Locator

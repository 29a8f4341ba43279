import Mathlib.Data.List.Pairwise
import ProposalCheck.Proofs.Json.Form
import ProposalCheck.Validation.Issue

/-!
# Parts of a JSON text

A path leads through the members and items of a value to one of its parts. In a text the part stands
between brackets, and a member has its name in front of it. How the names of members are read is left
open: readers that read a name differently may find different members by the same path. Where no name of
an object is read as another name of it, all readers find the same parts.

## Main definitions

* `Json.part?`: the part of a value that a path leads to
* `Items.slots`, `Members.slots`: items and members with what stands around them
* `Stands`: a path leads to a part of a form
* `Form.NamesApart`: no name is read as that of another member

## Main results

* `exists_stands_of_part?`: the parts of a value stand in its text
* `Stands.unique`: where names are apart, a path leads to one part however the names are read
-/

namespace ProposalCheck.Json

/-- The member or item that one step of a path leads to. -/
def child? : Json → PathItem → Option Json
  | .obj members, .name name => lookup name members
  | .arr items, .index index => items[index]?
  | _, _ => none

/-- The part of a value that a path leads to. -/
def part? (value : Json) : List PathItem → Option Json
  | [] => some value
  | step :: path => (value.child? step).bind fun part => part.part? path

/-! ### Items and members in their places -/

/-- An item with what stands before and after it between the brackets. -/
structure ItemSlot where
  before : List Char
  item : Form
  after : List Char

/-- A member with what stands before and after it between the braces. -/
structure MemberSlot where
  before : List Char
  name : List Glyph
  gap : List Char
  gap' : List Char
  value : Form
  after : List Char

/-- The items with what stands around them. -/
def Items.slots : Items → List ItemSlot
  | .one item after => [⟨[], item, after⟩]
  | .more item after before rest =>
    ⟨[], item, after ++ ',' :: (before ++ rest.chars)⟩ :: rest.slots.map fun slot =>
      { slot with before := item.chars ++ (after ++ ',' :: (before ++ slot.before)) }

/-- The members with what stands around them. -/
def Members.slots : Members → List MemberSlot
  | .one name gap gap' value after => [⟨[], name, gap, gap', value, after⟩]
  | .more name gap gap' value after before rest =>
    ⟨[], name, gap, gap', value, after ++ ',' :: (before ++ rest.chars)⟩ :: rest.slots.map fun slot =>
      { slot with
        before := nameChars name gap gap' ++ (value.chars ++ (after ++ ',' :: (before ++ slot.before))) }

/-- What stands in front of the value of a member. -/
def MemberSlot.key (slot : MemberSlot) : List Char := nameChars slot.name slot.gap slot.gap'

/-- Is the name of a member well formed, with nothing but blanks around its colon? -/
structure MemberSlot.IsValid (slot : MemberSlot) : Prop where
  name : ∀ g ∈ slot.name, g.IsValid
  gap : slot.gap.all isSpace
  gap' : slot.gap'.all isSpace
  value : slot.value.IsValid

theorem Items.chars_of_mem_slots {items : Items} {slot : ItemSlot} (h : slot ∈ items.slots) :
    items.chars = slot.before ++ (slot.item.chars ++ slot.after) := by
  cases items with
  | one item after =>
    obtain rfl := List.mem_singleton.mp h
    rfl
  | more item after before rest =>
    rcases List.mem_cons.mp h with rfl | h
    · rfl
    · obtain ⟨slot, hslot, rfl⟩ := List.mem_map.mp h
      simp [Items.chars, Items.chars_of_mem_slots hslot]

theorem Members.chars_of_mem_slots {members : Members} {slot : MemberSlot} (h : slot ∈ members.slots) :
    members.chars = slot.before ++ (slot.key ++ (slot.value.chars ++ slot.after)) := by
  cases members with
  | one name gap gap' value after =>
    obtain rfl := List.mem_singleton.mp h
    rfl
  | more name gap gap' value after before rest =>
    rcases List.mem_cons.mp h with rfl | h
    · rfl
    · obtain ⟨slot, hslot, rfl⟩ := List.mem_map.mp h
      simp [Members.chars, Members.chars_of_mem_slots hslot, MemberSlot.key]

/-- An item is well formed, and what follows it may follow a value. -/
theorem Items.IsValid.of_mem_slots {items : Items} (hitems : items.IsValid) {slot : ItemSlot}
    (h : slot ∈ items.slots) (rest : List Char) :
    slot.item.IsValid ∧ EndsValue (slot.after ++ ']' :: rest) := by
  cases items with
  | one item after =>
    obtain rfl := List.mem_singleton.mp h
    exact ⟨hitems.1, .append hitems.2 (endsValue_cons (by decide))⟩
  | more item after before others =>
    obtain ⟨hitem, hafter, -, hothers⟩ := hitems
    rcases List.mem_cons.mp h with rfl | h
    · refine ⟨hitem, ?_⟩
      rw [List.append_assoc]
      exact .append hafter (endsValue_cons (by decide))
    · obtain ⟨slot, hslot, rfl⟩ := List.mem_map.mp h
      exact Items.IsValid.of_mem_slots hothers hslot rest

/-- A member is well formed, and what follows it may follow a value. -/
theorem Members.IsValid.of_mem_slots {members : Members} (hmembers : members.IsValid)
    {slot : MemberSlot} (h : slot ∈ members.slots) (rest : List Char) :
    slot.IsValid ∧ EndsValue (slot.after ++ '\x7d' :: rest) := by
  cases members with
  | one name gap gap' value after =>
    obtain rfl := List.mem_singleton.mp h
    obtain ⟨hname, hgap, hgap', hvalue, hafter⟩ := hmembers
    exact ⟨⟨hname, hgap, hgap', hvalue⟩, .append hafter (endsValue_cons (by decide))⟩
  | more name gap gap' value after before others =>
    obtain ⟨hname, hgap, hgap', hvalue, hafter, -, hothers⟩ := hmembers
    rcases List.mem_cons.mp h with rfl | h
    · refine ⟨⟨hname, hgap, hgap', hvalue⟩, ?_⟩
      rw [List.append_assoc]
      exact .append hafter (endsValue_cons (by decide))
    · obtain ⟨slot, hslot, rfl⟩ := List.mem_map.mp h
      have hfound := Members.IsValid.of_mem_slots hothers hslot rest
      exact ⟨⟨hfound.1.name, hfound.1.gap, hfound.1.gap', hfound.1.value⟩, hfound.2⟩

theorem Items.values_eq (items : Items) : items.values = items.slots.map (·.item.value) := by
  cases items with
  | one => rfl
  | more item after before rest =>
    simp [Items.values, Items.slots, Items.values_eq rest, Function.comp_def]

/-- The members of a value as they are added one after the other. -/
theorem Members.valuesAfter_eq (members : Members) (earlier : List (String × Json)) :
    members.valuesAfter earlier = members.slots.foldl
      (fun all slot => insertMember (Glyph.text slot.name) slot.value.value all) earlier := by
  cases members with
  | one => rfl
  | more name gap gap' value after before rest =>
    simp [Members.valuesAfter, Members.slots, Members.valuesAfter_eq rest, List.foldl_map]

theorem lookup_insertMember (name other : String) (value : Json) (members : List (String × Json)) :
    lookup name (insertMember other value members) =
      if other = name then some value else lookup name members := by
  induction members with
  | nil => simp [insertMember, lookup]
  | cons member rest ih =>
    obtain ⟨first, old⟩ := member
    by_cases hfirst : first = other
    · subst hfirst
      by_cases hname : first = name <;> simp [insertMember, lookup, hname]
    · by_cases hname : first = name
      · subst hname
        simp [insertMember, lookup, hfirst, Ne.symm hfirst]
      · simp [insertMember, lookup, hfirst, hname, ih]

/-- A member that is found among the values stands among the members. -/
theorem exists_slot_of_lookup {slots : List MemberSlot} {earlier : List (String × Json)} {name : String}
    {value : Json}
    (h : lookup name (slots.foldl
      (fun all slot => insertMember (Glyph.text slot.name) slot.value.value all) earlier) = some value) :
    (∃ slot ∈ slots, Glyph.text slot.name = name ∧ slot.value.value = value) ∨
      lookup name earlier = some value := by
  induction slots generalizing earlier with
  | nil => exact .inr h
  | cons slot slots ih =>
    rcases ih h with ⟨found, hmem, hfound⟩ | hlookup
    · exact .inl ⟨found, List.mem_cons_of_mem _ hmem, hfound⟩
    · rw [lookup_insertMember] at hlookup
      split_ifs at hlookup with hname
      · exact .inl ⟨slot, List.mem_cons_self, hname, Option.some.inj hlookup⟩
      · exact .inr hlookup

/-! ### Paths -/

/-- A part of a form: the name in front of it, if it is a member, and what stands around both. -/
structure Part where
  before : List Char
  key : List Char
  form : Form
  after : List Char

/-- The part of an array in which an item stands. -/
def Part.item (whole : Part) (gap : List Char) (slot : ItemSlot) : Part :=
  ⟨whole.before ++ (whole.key ++ '[' :: (gap ++ slot.before)), [], slot.item,
    slot.after ++ ']' :: whole.after⟩

/-- The part of an object in which a member stands. -/
def Part.member (whole : Part) (gap : List Char) (slot : MemberSlot) : Part :=
  ⟨whole.before ++ (whole.key ++ '\x7b' :: (gap ++ slot.before)), slot.key, slot.value,
    slot.after ++ '\x7d' :: whole.after⟩

variable {names names' : List Glyph → Option String} {root : Form}

/-- A path leads to a part of a form, if names are read in a certain way. -/
inductive Stands (names : List Glyph → Option String) (root : Form) : List PathItem → Part → Prop
  | root : Stands names root [] ⟨[], [], root, []⟩
  | item {path : List PathItem} {whole : Part} {gap : List Char} {items : Items} {index : Nat}
      {slot : ItemSlot} (h : Stands names root path whole) (hform : whole.form = .arr gap items)
      (hslot : items.slots[index]? = some slot) :
      Stands names root (path ++ [.index index]) (whole.item gap slot)
  | member {path : List PathItem} {whole : Part} {gap : List Char} {members : Members} {name : String}
      {slot : MemberSlot} (h : Stands names root path whole) (hform : whole.form = .obj gap members)
      (hslot : slot ∈ members.slots) (hname : names slot.name = some name) :
      Stands names root (path ++ [.name name]) (whole.member gap slot)

theorem Stands.chars {path : List PathItem} {part : Part} (h : Stands names root path part) :
    root.chars = part.before ++ (part.key ++ (part.form.chars ++ part.after)) := by
  induction h with
  | root => simp
  | item h hform hslot ih =>
    simp [ih, hform, Form.chars, Items.chars_of_mem_slots (List.mem_of_getElem? hslot), Part.item]
  | member h hform hslot hname ih =>
    simp [ih, hform, Form.chars, Members.chars_of_mem_slots hslot, Part.member]

/-- A part of a well formed text is well formed, and ends where something follows that ends a value. -/
theorem Stands.isValid (hroot : root.IsValid) {path : List PathItem} {part : Part}
    (h : Stands names root path part) :
    part.form.IsValid ∧ ∀ rest, EndsValue rest → EndsValue (part.after ++ rest) := by
  induction h with
  | root => exact ⟨hroot, fun _ h => h⟩
  | item h hform hslot ih =>
    have hitems := ih.1
    rw [hform] at hitems
    refine ⟨(hitems.2.of_mem_slots (List.mem_of_getElem? hslot) []).1, fun rest _ => ?_⟩
    simpa [Part.item] using (hitems.2.of_mem_slots (List.mem_of_getElem? hslot) _).2
  | member h hform hslot hname ih =>
    have hmembers := ih.1
    rw [hform] at hmembers
    refine ⟨(hmembers.2.of_mem_slots hslot []).1.value, fun rest _ => ?_⟩
    simpa [Part.member] using (hmembers.2.of_mem_slots hslot _).2

/-- The names of a text as JSON reads them. -/
def jsonName (name : List Glyph) : Option String := some (Glyph.text name)

/-- One step from a value leads to a part below the form of the value. -/
theorem Stands.exists_child (hroot : root.IsValid) {path : List PathItem} {whole : Part}
    (h : Stands jsonName root path whole) {step : PathItem} {value : Json}
    (hchild : whole.form.value.child? step = some value) :
    ∃ part, Stands jsonName root (path ++ [step]) part ∧ part.form.value = value := by
  cases hform : whole.form with
  | bare chars plain =>
    have hbare : IsBare chars plain := by simpa [hform, Form.IsValid] using (h.isValid hroot).1
    have hleaf := hbare.isLeaf
    rw [hform, Form.value] at hchild
    cases plain <;> simp_all [isLeaf, child?]
  | str | emptyArr | emptyObj => cases step <;> simp [hform, Form.value, child?, lookup] at hchild
  | arr gap items =>
    cases step with
    | name => simp [hform, Form.value, child?] at hchild
    | index index =>
      rw [hform, Form.value, child?, Items.values_eq, List.getElem?_map] at hchild
      obtain ⟨slot, hslot, rfl⟩ := Option.map_eq_some_iff.mp hchild
      exact ⟨_, .item h hform hslot, rfl⟩
  | obj gap members =>
    cases step with
    | index => simp [hform, Form.value, child?] at hchild
    | name name =>
      rw [hform, Form.value, child?, Members.valuesAfter_eq] at hchild
      -- the value of a name is that of its last member
      obtain ⟨slot, hslot, rfl, rfl⟩ | hnone := exists_slot_of_lookup hchild
      · exact ⟨_, .member h hform hslot rfl, rfl⟩
      · simp [lookup] at hnone

/-- The part of a value that a path leads to stands in the text of the value. -/
theorem exists_stands_of_part? (hroot : root.IsValid) {path : List PathItem} {value : Json}
    (h : root.value.part? path = some value) :
    ∃ part, Stands jsonName root path part ∧ part.form.value = value := by
  -- the path is followed from some part on
  suffices hfrom : ∀ {front path : List PathItem} {whole : Part}, Stands jsonName root front whole →
      whole.form.value.part? path = some value →
      ∃ part, Stands jsonName root (front ++ path) part ∧ part.form.value = value by
    simpa using hfrom .root h
  intro front path whole hwhole hpath
  induction path generalizing front whole with
  | nil => exact ⟨whole, by simpa using hwhole, by simpa [part?] using hpath⟩
  | cons step path ih =>
    obtain ⟨child, hchild, hrest⟩ := Option.bind_eq_some_iff.mp hpath
    obtain ⟨part, hpart, rfl⟩ := hwhole.exists_child hroot hchild
    simpa using ih hpart hrest

/-! ### Names that are apart -/

/-- Is no name among some members read as that of another member? -/
def AreApart (names : List Glyph → Option String) (slots : List MemberSlot) : Prop :=
  slots.Pairwise fun slot other =>
    names slot.name ≠ jsonName other.name ∧ names other.name ≠ jsonName slot.name

mutual

/-- In all objects of a form, is no name read as that of another member? -/
def Form.NamesApart (names : List Glyph → Option String) : Form → Prop
  | .bare _ _ | .str _ | .emptyArr _ | .emptyObj _ => True
  | .arr _ items => items.NamesApart names
  | .obj _ members => AreApart names members.slots ∧ members.NamesApart names

/-- The same for the objects in items. -/
def Items.NamesApart (names : List Glyph → Option String) : Items → Prop
  | .one item _ => item.NamesApart names
  | .more item _ _ rest => item.NamesApart names ∧ rest.NamesApart names

/-- The same for the objects in the values of members. -/
def Members.NamesApart (names : List Glyph → Option String) : Members → Prop
  | .one _ _ _ value _ => value.NamesApart names
  | .more _ _ _ value _ _ rest => value.NamesApart names ∧ rest.NamesApart names

end

theorem Items.NamesApart.of_mem_slots {items : Items} (hitems : items.NamesApart names)
    {slot : ItemSlot} (h : slot ∈ items.slots) : slot.item.NamesApart names := by
  cases items with
  | one item after =>
    obtain rfl := List.mem_singleton.mp h
    exact hitems
  | more item after before rest =>
    rcases List.mem_cons.mp h with rfl | h
    · exact hitems.1
    · obtain ⟨slot, hslot, rfl⟩ := List.mem_map.mp h
      have hitem : slot.item.NamesApart names := Items.NamesApart.of_mem_slots hitems.2 hslot
      exact hitem

theorem Members.NamesApart.of_mem_slots {members : Members} (hmembers : members.NamesApart names)
    {slot : MemberSlot} (h : slot ∈ members.slots) : slot.value.NamesApart names := by
  cases members with
  | one name gap gap' value after =>
    obtain rfl := List.mem_singleton.mp h
    exact hmembers
  | more name gap gap' value after before rest =>
    rcases List.mem_cons.mp h with rfl | h
    · exact hmembers.1
    · obtain ⟨slot, hslot, rfl⟩ := List.mem_map.mp h
      have hvalue : slot.value.NamesApart names := Members.NamesApart.of_mem_slots hmembers.2 hslot
      exact hvalue

theorem Stands.namesApart (hroot : root.NamesApart names') {path : List PathItem} {part : Part}
    (h : Stands names root path part) : part.form.NamesApart names' := by
  induction h with
  | root => exact hroot
  | item h hform hslot ih =>
    rw [hform] at ih
    exact ih.of_mem_slots (List.mem_of_getElem? hslot)
  | member h hform hslot hname ih =>
    rw [hform] at ih
    exact ih.2.of_mem_slots hslot

/-- Where names are apart, a name is read as that of its own member only. -/
theorem AreApart.eq {slots : List MemberSlot} (h : AreApart names slots) {slot other : MemberSlot}
    (hslot : slot ∈ slots) (hother : other ∈ slots) (hname : names slot.name = jsonName other.name) :
    slot = other := by
  by_contra hne
  have hsymm : Std.Symm fun slot other : MemberSlot =>
      names slot.name ≠ jsonName other.name ∧ names other.name ≠ jsonName slot.name :=
    ⟨fun _ _ h => ⟨h.2, h.1⟩⟩
  exact (List.Pairwise.forall h hslot hother hne).1 hname

/-- Where names are apart, a path leads to one part only, however the names are read. -/
theorem Stands.unique (hroot : root.NamesApart names) {path : List PathItem} {part part' : Part}
    (h : Stands names root path part) (h' : Stands jsonName root path part') : part = part' := by
  induction h generalizing part' with
  | root =>
    generalize hpath : [] = path at h'
    cases h' with
    | root => rfl
    | item | member => simp at hpath
  | @item path whole gap items index slot h hform hslot ih =>
    generalize hpath : path ++ [.index index] = path' at h'
    cases h' with
    | root => simp at hpath
    | member => simp at hpath
    | item h' hform' hslot' =>
      obtain ⟨rfl, hindex⟩ := List.append_inj' hpath rfl
      obtain rfl : index = _ := by simpa using hindex
      obtain rfl := ih h'
      obtain ⟨rfl, rfl⟩ := Form.arr.inj (hform.symm.trans hform')
      obtain rfl := Option.some.inj (hslot.symm.trans hslot')
      rfl
  | @member path whole gap members name slot h hform hslot hname ih =>
    generalize hpath : path ++ [.name name] = path' at h'
    cases h' with
    | root => simp at hpath
    | item => simp at hpath
    | member h' hform' hslot' hname' =>
      obtain ⟨rfl, heq⟩ := List.append_inj' hpath rfl
      obtain rfl : name = _ := by simpa using heq
      obtain rfl := ih h'
      obtain ⟨rfl, rfl⟩ := Form.obj.inj (hform.symm.trans hform')
      -- two members are the same if their names are read alike, and here the two readings meet
      have happart := h.namesApart hroot
      rw [hform] at happart
      obtain rfl := happart.1.eq hslot hslot' (hname.trans hname'.symm)
      rfl

end ProposalCheck.Json

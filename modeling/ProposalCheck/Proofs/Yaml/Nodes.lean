import ProposalCheck.Proofs.Yaml.Tokens

/-!
# Nodes of a JSON text

From the tokens of a form a node is read that has the shape of the form, with every part at its place.
Where the mark in front of a name is missing no node is read.

## Main definitions

* `Form.Matches`: a node has the shape of a form, with its parts at their places

## Main results

* `matches_of_read`: what is read from the tokens of a form
* `exists_matches_of_ofText`: the node of a text that is spelled by a form
-/

namespace ProposalCheck.Json

open Yaml (nameOf?)

mutual

/-- A node has the shape of a form, and its parts stand at their places. -/
def Form.Matches (start : Yaml.Cursor) : Form → Nat → Yaml.Node → Prop
  | .bare _ _, k, node => ∃ text, node = .scalar (start.skip k).place none text true
  | .str _, k, node => ∃ text, node = .scalar (start.skip k).place none text false
  | .emptyArr _, k, node => node = .sequence (start.skip k).place none []
  | .arr gap items, k, node => ∃ nodes, items.Matches start (k + 1 + gap.length) nodes ∧
      node = .sequence (start.skip k).place none nodes
  | .emptyObj _, k, node => node = .mapping (start.skip k).place none []
  | .obj gap members, k, node => ∃ entries, members.Matches start (k + 1 + gap.length) entries ∧
      node = .mapping (start.skip k).place none entries

/-- Nodes have the shapes of items. -/
def Items.Matches (start : Yaml.Cursor) : Items → Nat → List Yaml.Node → Prop
  | .one item _, k, nodes => ∃ node, item.Matches start k node ∧ nodes = [node]
  | .more item after before rest, k, nodes => ∃ node others, item.Matches start k node ∧
      rest.Matches start (k + item.chars.length + after.length + 1 + before.length) others ∧
      nodes = node :: others

/-- Entries have the names and the shapes of members. -/
def Members.Matches (start : Yaml.Cursor) : Members → Nat → List (Yaml.Node × Yaml.Node) → Prop
  | .one name gap gap' value _, k, entries => ∃ text node, nameOf? name = some text ∧
      value.Matches start (k + (nameChars name gap gap').length) node ∧
      entries = [(.scalar (start.skip k).place none text false, node)]
  | .more name gap gap' value after before rest, k, entries => ∃ text node others,
      nameOf? name = some text ∧ value.Matches start (k + (nameChars name gap gap').length) node ∧
      rest.Matches start (k + (nameChars name gap gap').length + value.chars.length + after.length + 1 +
        before.length) others ∧
      entries = (.scalar (start.skip k).place none text false, node) :: others

end

end ProposalCheck.Json

namespace ProposalCheck.Yaml

open Json (Form Items Members Glyph nameChars)

namespace Node

/-! ### Readers -/

section readers

variable {token : Token} {rest : List Token} {anchors : List (String × Node)} {position : Position}
  {fuel : Nat}

theorem bind_apply {α β : Type} (first : Reader α) (second : α → Reader β) (state : Remaining) :
    (first >>= second) state = first state >>= fun found => second found.1 found.2 := rfl

theorem ok_bind {ε α β : Type} (a : α) (f : α → Except ε β) : (Except.ok a >>= f) = f a := rfl

theorem peekKind_cons : peekKind ⟨token :: rest, anchors⟩ = .ok (some token.kind, ⟨token :: rest, anchors⟩) :=
  rfl

theorem here_cons : here ⟨token :: rest, anchors⟩ = .ok (token.start, ⟨token :: rest, anchors⟩) := rfl

theorem isNext_cons (kinds : List TokenKind) :
    isNext kinds ⟨token :: rest, anchors⟩ = .ok (kinds.contains token.kind, ⟨token :: rest, anchors⟩) := rfl

theorem accept_cons (kind : TokenKind) :
    accept kind ⟨token :: rest, anchors⟩ =
      if token.kind = kind then .ok (some token.stop, ⟨rest, anchors⟩)
      else .ok (none, ⟨token :: rest, anchors⟩) := by
  change (if token.kind = kind then (do
      drop
      return some token.stop : Reader (Option Place)) else return none) ⟨token :: rest, anchors⟩ = _
  split_ifs <;> rfl

/-- The kinds of tokens that start the node of a form. -/
def startsNode : TokenKind → Bool
  | .scalar _ _ | .flowSequenceStart | .flowMappingStart => true
  | _ => false

theorem properties_cons (h : startsNode token.kind) :
    properties {} 2 ⟨token :: rest, anchors⟩ = .ok ({}, ⟨token :: rest, anchors⟩) := by
  unfold properties
  rw [bind_apply, peekKind_cons]
  cases hkind : token.kind <;> simp [hkind, startsNode] at h <;> rfl

/-- How a node is read, by its first token. -/
theorem read_cons (h : startsNode token.kind) :
    read position (fuel + 1) ⟨token :: rest, anchors⟩ =
      match token.kind with
      | .scalar text plain => .ok (.scalar token.start none text plain, ⟨rest, anchors⟩)
      | .flowSequenceStart => do
        let (items, state) ← readFlowItems true fuel ⟨rest, anchors⟩
        return (.sequence token.start none items, state)
      | .flowMappingStart => do
        let (entries, state) ← readFlowEntries true fuel ⟨rest, anchors⟩
        return (.mapping token.start none entries, state)
      | _ => .error .arrangement := by
  unfold read
  rw [bind_apply, here_cons, ok_bind, bind_apply, properties_cons h, ok_bind]
  dsimp only
  rw [bind_apply, peekKind_cons, ok_bind]
  cases hkind : token.kind <;> simp [hkind, startsNode] at h <;> rfl

section parts

variable {closing : TokenKind} {own : List Token}

theorem continues_first (hown : ∃ first more, own = first :: more ∧ first.kind ≠ closing) :
    continues true closing ⟨own ++ rest, anchors⟩ = .ok (true, ⟨own ++ rest, anchors⟩) := by
  obtain ⟨first, more, rfl, hfirst⟩ := hown
  unfold continues
  rw [List.cons_append, bind_apply, accept_cons, if_neg hfirst]
  rfl

theorem continues_close (isFirst : Bool) (h : token.kind = closing) :
    continues isFirst closing ⟨token :: rest, anchors⟩ = .ok (false, ⟨rest, anchors⟩) := by
  unfold continues
  rw [bind_apply, accept_cons, if_pos h]
  rfl

theorem continues_comma (hcomma : token.kind = .flowEntry) (hclosing : closing ≠ .flowEntry)
    (hown : ∃ first more, own = first :: more ∧ first.kind ≠ closing) :
    continues false closing ⟨token :: (own ++ rest), anchors⟩ = .ok (true, ⟨own ++ rest, anchors⟩) := by
  obtain ⟨first, more, rfl, hfirst⟩ := hown
  have hne : token.kind ≠ closing := by
    rw [hcomma]
    exact hclosing.symm
  unfold continues
  rw [bind_apply, accept_cons, if_neg hne, ok_bind]
  change (accept .flowEntry >>= fun found => _) _ = _
  rw [bind_apply, accept_cons, if_pos hcomma, ok_bind]
  change (accept closing >>= fun found => _) _ = _
  rw [List.cons_append, bind_apply, accept_cons, if_neg hfirst]
  rfl

theorem continues_other (hcomma : token.kind ≠ .flowEntry) (h : token.kind ≠ closing) :
    continues false closing ⟨token :: rest, anchors⟩ = .error .arrangement := by
  unfold continues
  rw [bind_apply, accept_cons, if_neg h, ok_bind]
  change (accept .flowEntry >>= fun found => _) _ = _
  rw [bind_apply, accept_cons, if_neg hcomma]
  rfl

end parts

variable {state after : Remaining} {isFirst : Bool}

/-- An item of a sequence in brackets is read first, then the others. -/
theorem exists_of_readFlowItems {items : List Node} {own : List Token}
    (hown : ∃ first more, own = first :: more ∧ startsNode first.kind)
    (hcontinues : continues isFirst .flowSequenceEnd state = .ok (true, ⟨own ++ rest, anchors⟩))
    (h : readFlowItems isFirst fuel state = .ok (items, after)) :
    ∃ fuel' item middle others, read .flow fuel' ⟨own ++ rest, anchors⟩ = .ok (item, middle) ∧
      readFlowItems false fuel' middle = .ok (others, after) ∧ items = item :: others := by
  obtain ⟨token, more, rfl, hstarts⟩ := hown
  rw [List.cons_append] at hcontinues ⊢
  -- an item starts a node, so it is not taken for a pair of its own
  have hkey : token.kind ≠ .key := by
    intro hkind
    simp [hkind, startsNode] at hstarts
  cases fuel with
  | zero => cases h
  | succ fuel =>
    rw [readFlowItems, bind_apply, hcontinues, ok_bind] at h
    change (here >>= fun found => _) _ = _ at h
    rw [bind_apply, here_cons, ok_bind] at h
    dsimp only at h
    rw [bind_apply, accept_cons, if_neg hkey, ok_bind] at h
    obtain ⟨⟨item, middle⟩, hitem, h⟩ := exists_of_bind_eq_ok h
    obtain ⟨⟨others, last⟩, hothers, h⟩ := exists_of_bind_eq_ok h
    obtain ⟨rfl, rfl⟩ := Prod.mk.inj (Except.ok.inj h)
    exact ⟨fuel, item, middle, others, hitem, hothers, rfl⟩

/-- Where a sequence ends no further item is read. -/
theorem eq_of_readFlowItems {items : List Node} {middle : Remaining}
    (hcontinues : continues isFirst .flowSequenceEnd state = .ok (false, middle))
    (h : readFlowItems isFirst fuel state = .ok (items, after)) : items = [] ∧ after = middle := by
  cases fuel with
  | zero => cases h
  | succ fuel =>
    rw [readFlowItems, bind_apply, hcontinues, ok_bind] at h
    obtain ⟨rfl, rfl⟩ := Prod.mk.inj (Except.ok.inj h)
    exact ⟨rfl, rfl⟩

/-- Where a mapping ends no further entry is read. -/
theorem eq_of_readFlowEntries {entries : List (Node × Node)} {middle : Remaining}
    (hcontinues : continues isFirst .flowMappingEnd state = .ok (false, middle))
    (h : readFlowEntries isFirst fuel state = .ok (entries, after)) : entries = [] ∧ after = middle := by
  cases fuel with
  | zero => cases h
  | succ fuel =>
    rw [readFlowEntries, bind_apply, hcontinues, ok_bind] at h
    obtain ⟨rfl, rfl⟩ := Prod.mk.inj (Except.ok.inj h)
    exact ⟨rfl, rfl⟩

/-- A node is read where none is left out. -/
theorem exists_of_readUnless {stops : List TokenKind} {place : Place} {node : Node}
    (hstop : stops.contains token.kind = false)
    (h : readUnless stops position place fuel ⟨token :: rest, anchors⟩ = .ok (node, after)) :
    ∃ fuel', read position fuel' ⟨token :: rest, anchors⟩ = .ok (node, after) := by
  cases fuel with
  | zero => cases h
  | succ fuel =>
    rw [readUnless, bind_apply, isNext_cons, hstop, ok_bind] at h
    exact ⟨fuel, h⟩

theorem eq_of_read_scalar {text : String} {plain : Bool} {node : Node}
    (hkind : token.kind = .scalar text plain)
    (h : read position fuel ⟨token :: rest, anchors⟩ = .ok (node, after)) :
    node = .scalar token.start none text plain ∧ after = ⟨rest, anchors⟩ := by
  cases fuel with
  | zero => cases h
  | succ fuel =>
    rw [read_cons (by rw [hkind]; rfl), hkind] at h
    obtain ⟨rfl, rfl⟩ := Prod.mk.inj (Except.ok.inj h)
    exact ⟨rfl, rfl⟩

/-- After a colon a node is read. -/
theorem exists_of_readValue {stops : List TokenKind} {colon : Token} {node : Node}
    (hcolon : colon.kind = .value) (hstop : stops.contains token.kind = false)
    (h : readValue stops position fuel ⟨colon :: token :: rest, anchors⟩ = .ok (node, after)) :
    ∃ fuel', read position fuel' ⟨token :: rest, anchors⟩ = .ok (node, after) := by
  cases fuel with
  | zero => cases h
  | succ fuel =>
    rw [readValue, bind_apply, accept_cons, if_pos hcolon, ok_bind] at h
    exact exists_of_readUnless hstop h

/-- An entry with the mark of a key is read first, then the others. -/
theorem exists_of_readFlowEntries {key name colon first : Token} {text : String} {plain : Bool}
    {entries : List (Node × Node)} (hkey : key.kind = .key) (hname : name.kind = .scalar text plain)
    (hcolon : colon.kind = .value) (hfirst : startsNode first.kind)
    (hcontinues : continues isFirst .flowMappingEnd state =
      .ok (true, ⟨key :: name :: colon :: first :: rest, anchors⟩))
    (h : readFlowEntries isFirst fuel state = .ok (entries, after)) :
    ∃ fuel' fuel'' value middle others, read .flow fuel' ⟨first :: rest, anchors⟩ = .ok (value, middle) ∧
      readFlowEntries false fuel'' middle = .ok (others, after) ∧
      entries = (.scalar name.start none text plain, value) :: others := by
  cases fuel with
  | zero => cases h
  | succ fuel =>
    rw [readFlowEntries, bind_apply, hcontinues, ok_bind] at h
    change (accept .key >>= fun found => _) _ = _ at h
    rw [bind_apply, accept_cons, if_pos hkey, ok_bind] at h
    dsimp only at h
    rw [bind_apply] at h
    obtain ⟨⟨node, middle⟩, hnode, h⟩ := exists_of_bind_eq_ok h
    -- the name is a node, and so is the value behind the colon
    obtain ⟨_, hnode⟩ := exists_of_readUnless (by simp [hname]) hnode
    obtain ⟨rfl, rfl⟩ := eq_of_read_scalar hname hnode
    dsimp only at h
    rw [bind_apply] at h
    obtain ⟨⟨value, middle⟩, hvalue, h⟩ := exists_of_bind_eq_ok h
    obtain ⟨fuel', hvalue⟩ := exists_of_readValue hcolon (by
      cases hkind : first.kind <;> simp [hkind, startsNode] at hfirst ⊢) hvalue
    obtain ⟨⟨others, last⟩, hothers, h⟩ := exists_of_bind_eq_ok h
    obtain ⟨rfl, rfl⟩ := Prod.mk.inj (Except.ok.inj h)
    exact ⟨fuel', fuel, value, middle, others, hvalue, hothers, rfl⟩

/-- Without the mark of a key, no entry is read. -/
theorem readFlowEntries_ne_ok {name colon : Token} {text : String} {plain : Bool}
    {entries : List (Node × Node)} (hname : name.kind = .scalar text plain) (hcolon : colon.kind = .value)
    (hcontinues : continues isFirst .flowMappingEnd state = .ok (true, ⟨name :: colon :: rest, anchors⟩)) :
    readFlowEntries isFirst fuel state ≠ .ok (entries, after) := by
  intro h
  have hkey : name.kind ≠ .key := by simp [hname]
  cases fuel with
  | zero => cases h
  | succ fuel =>
    rw [readFlowEntries, bind_apply, hcontinues, ok_bind] at h
    change (accept .key >>= fun found => _) _ = _ at h
    rw [bind_apply, accept_cons, if_neg hkey, ok_bind] at h
    dsimp only at h
    rw [bind_apply, isNext_cons, ok_bind] at h
    have hvalue : [TokenKind.value].contains name.kind = false := by simp [hname]
    simp only [hvalue, Bool.false_eq_true, if_false] at h
    rw [bind_apply] at h
    obtain ⟨⟨node, middle⟩, hnode, h⟩ := exists_of_bind_eq_ok h
    -- the name becomes an entry without a value, and then the colon is not in its place
    obtain ⟨rfl, rfl⟩ := eq_of_read_scalar hname hnode
    dsimp only at h
    change (here >>= fun found => _) _ = _ at h
    rw [bind_apply, here_cons, ok_bind] at h
    obtain ⟨⟨others, last⟩, hothers, -⟩ := exists_of_bind_eq_ok h
    cases fuel with
    | zero => cases hothers
    | succ fuel =>
      have hend : continues false .flowMappingEnd ⟨colon :: rest, anchors⟩ = .error .arrangement :=
        continues_other (by simp [hcolon]) (by simp [hcolon])
      change readFlowEntries false (fuel + 1) ⟨colon :: rest, anchors⟩ = _ at hothers
      rw [readFlowEntries, bind_apply, hend] at hothers
      cases hothers

end readers

end Node

/-! ### The node of a form -/

section matching

variable {start : Cursor}

theorem exists_first_of_emits {form : Form} {k : Nat} {own : List Token} (h : form.Emits start k own) :
    ∃ first more, own = first :: more ∧ Node.startsNode first.kind := by
  cases form with
  | bare | str =>
    obtain ⟨text, stop, rfl⟩ := h
    exact ⟨_, _, rfl, rfl⟩
  | emptyArr | emptyObj =>
    obtain ⟨stop, last, rfl⟩ := h
    exact ⟨_, _, rfl, rfl⟩
  | arr | obj =>
    obtain ⟨stop, inner, last, -, rfl⟩ := h
    exact ⟨_, _, rfl, rfl⟩

theorem exists_first_of_emits_items {items : Items} {k : Nat} {own : List Token}
    (h : items.Emits start k own) : ∃ first more, own = first :: more ∧ first.kind ≠ .flowSequenceEnd := by
  have hform : ∀ {form : Form} {k : Nat} {own : List Token} (rest : List Token),
      form.Emits start k own →
        ∃ first more, own ++ rest = first :: more ∧ first.kind ≠ .flowSequenceEnd := by
    intro form k own rest hown
    obtain ⟨first, more, rfl, hfirst⟩ := exists_first_of_emits hown
    exact ⟨first, _, rfl, fun hkind => by simp [hkind, Node.startsNode] at hfirst⟩
  cases items with
  | one item after => simpa using hform [] h
  | more item after before rest =>
    obtain ⟨first, stop, others, hfirst, -, rfl⟩ := h
    exact hform _ hfirst

theorem exists_first_of_emitsName {name : List Glyph} {k : Nat} {front rest : List Token}
    (h : EmitsName start name k front) :
    ∃ first more, front ++ rest = first :: more ∧ first.kind ≠ .flowMappingEnd := by
  obtain ⟨text, marks, stop, colon, -, rfl | ⟨place, stop', rfl⟩, -, rfl⟩ := h
  · exact ⟨_, _, rfl, by simp [tokenAt]⟩
  · exact ⟨_, _, rfl, by simp⟩

theorem exists_first_of_emits_members {members : Members} {k : Nat} {own : List Token}
    (h : members.Emits start k own) :
    ∃ first more, own = first :: more ∧ first.kind ≠ .flowMappingEnd := by
  cases members with
  | one name gap gap' value after =>
    obtain ⟨front, first, hfront, -, rfl⟩ := h
    exact exists_first_of_emitsName hfront
  | more name gap gap' value after before rest =>
    obtain ⟨front, first, stop, others, hfront, -, -, rfl⟩ := h
    exact exists_first_of_emitsName hfront

/-- An entry is read from the tokens of its name and those of its value. -/
theorem exists_of_emitsName {name : List Glyph} {k fuel : Nat} {front own rest : List Token}
    {anchors : List (String × Node)} {isFirst : Bool} {state after : Node.Remaining}
    {entries : List (Node × Node)} (hfront : EmitsName start name k front)
    (hown : ∃ first more, own = first :: more ∧ Node.startsNode first.kind)
    (hcontinues : Node.continues isFirst .flowMappingEnd state =
      .ok (true, ⟨front ++ (own ++ rest), anchors⟩))
    (h : Node.readFlowEntries isFirst fuel state = .ok (entries, after)) :
    ∃ text fuel' fuel'' value middle others, nameOf? name = some text ∧
      Node.read .flow fuel' ⟨own ++ rest, anchors⟩ = .ok (value, middle) ∧
      Node.readFlowEntries false fuel'' middle = .ok (others, after) ∧
      entries = (.scalar (start.skip k).place none text false, value) :: others := by
  obtain ⟨first, more, rfl, hfirst⟩ := hown
  obtain ⟨text, marks, stop, colon, htext, hmarks, hcolon, rfl⟩ := hfront
  rcases hmarks with rfl | ⟨place, stop', rfl⟩
  · exact absurd h (Node.readFlowEntries_ne_ok rfl hcolon hcontinues)
  · obtain ⟨fuel', fuel'', value, middle, others, hvalue, hothers, rfl⟩ :=
      Node.exists_of_readFlowEntries rfl rfl hcolon hfirst hcontinues h
    exact ⟨text, fuel', fuel'', value, middle, others, htext, hvalue, hothers, rfl⟩

mutual

/-- What is read from the tokens of a form has the shape of the form. -/
theorem matches_of_read {form : Form} {k fuel : Nat} {own rest : List Token}
    {anchors : List (String × Node)} {position : Node.Position} {node : Node} {after : Node.Remaining}
    (hown : form.Emits start k own)
    (h : Node.read position fuel ⟨own ++ rest, anchors⟩ = .ok (node, after)) :
    form.Matches start k node ∧ after = ⟨rest, anchors⟩ := by
  cases fuel with
  | zero => cases h
  | succ fuel =>
  cases form with
  | bare | str =>
    obtain ⟨text, stop, rfl⟩ := hown
    obtain ⟨rfl, rfl⟩ := Node.eq_of_read_scalar rfl h
    exact ⟨⟨text, rfl⟩, rfl⟩
  | emptyArr gap =>
    obtain ⟨stop, last, rfl⟩ := hown
    rw [List.cons_append, Node.read_cons rfl] at h
    obtain ⟨⟨nodes, middle⟩, hnodes, h⟩ := exists_of_bind_eq_ok h
    -- an empty sequence ends with the token that comes first
    obtain ⟨rfl, rfl⟩ := Node.eq_of_readFlowItems (Node.continues_close true rfl) hnodes
    obtain ⟨rfl, rfl⟩ := Prod.mk.inj (Except.ok.inj h)
    exact ⟨rfl, rfl⟩
  | arr gap items =>
    obtain ⟨stop, inner, last, hinner, rfl⟩ := hown
    rw [List.cons_append, List.append_assoc, Node.read_cons rfl] at h
    obtain ⟨⟨nodes, middle⟩, hnodes, h⟩ := exists_of_bind_eq_ok h
    obtain ⟨hmatches, rfl⟩ := matches_of_readFlowItems hinner rfl
      (Node.continues_first (exists_first_of_emits_items hinner)) hnodes
    obtain ⟨rfl, rfl⟩ := Prod.mk.inj (Except.ok.inj h)
    exact ⟨⟨nodes, hmatches, rfl⟩, rfl⟩
  | emptyObj gap =>
    obtain ⟨stop, last, rfl⟩ := hown
    rw [List.cons_append, Node.read_cons rfl] at h
    obtain ⟨⟨entries, middle⟩, hentries, h⟩ := exists_of_bind_eq_ok h
    obtain ⟨rfl, rfl⟩ := Node.eq_of_readFlowEntries (Node.continues_close true rfl) hentries
    obtain ⟨rfl, rfl⟩ := Prod.mk.inj (Except.ok.inj h)
    exact ⟨rfl, rfl⟩
  | obj gap members =>
    obtain ⟨stop, inner, last, hinner, rfl⟩ := hown
    rw [List.cons_append, List.append_assoc, Node.read_cons rfl] at h
    obtain ⟨⟨entries, middle⟩, hentries, h⟩ := exists_of_bind_eq_ok h
    obtain ⟨hmatches, rfl⟩ := matches_of_readFlowEntries hinner rfl
      (Node.continues_first (exists_first_of_emits_members hinner)) hentries
    obtain ⟨rfl, rfl⟩ := Prod.mk.inj (Except.ok.inj h)
    exact ⟨⟨entries, hmatches, rfl⟩, rfl⟩

/-- What is read from the tokens of items, up to the bracket behind them. -/
theorem matches_of_readFlowItems {items : Items} {k fuel : Nat} {own rest : List Token} {close : Token}
    {anchors : List (String × Node)} {isFirst : Bool} {nodes : List Node}
    {state after : Node.Remaining} (hown : items.Emits start k own)
    (hclose : close.kind = .flowSequenceEnd)
    (hcontinues : Node.continues isFirst .flowSequenceEnd state =
      .ok (true, ⟨own ++ close :: rest, anchors⟩))
    (h : Node.readFlowItems isFirst fuel state = .ok (nodes, after)) :
    items.Matches start k nodes ∧ after = ⟨rest, anchors⟩ := by
  cases items with
  | one item after' =>
    obtain ⟨fuel', node, middle, others, hnode, hothers, rfl⟩ :=
      Node.exists_of_readFlowItems (exists_first_of_emits hown) hcontinues h
    obtain ⟨hmatches, rfl⟩ := matches_of_read hown hnode
    obtain ⟨rfl, rfl⟩ := Node.eq_of_readFlowItems (Node.continues_close false hclose) hothers
    exact ⟨⟨node, hmatches, rfl⟩, rfl⟩
  | more item after' before others =>
    obtain ⟨own, stop, later, hitem, hlater, rfl⟩ := hown
    rw [List.append_assoc] at hcontinues
    obtain ⟨fuel', node, middle, nodes, hnode, hnodes, rfl⟩ :=
      Node.exists_of_readFlowItems (exists_first_of_emits hitem) hcontinues h
    obtain ⟨hmatches, rfl⟩ := matches_of_read hitem hnode
    obtain ⟨hothers, rfl⟩ := matches_of_readFlowItems hlater hclose
      (Node.continues_comma rfl (by simp) (exists_first_of_emits_items hlater)) hnodes
    exact ⟨⟨node, nodes, hmatches, hothers, rfl⟩, rfl⟩

/-- What is read from the tokens of members, up to the brace behind them. -/
theorem matches_of_readFlowEntries {members : Members} {k fuel : Nat} {own rest : List Token}
    {close : Token} {anchors : List (String × Node)} {isFirst : Bool} {entries : List (Node × Node)}
    {state after : Node.Remaining} (hown : members.Emits start k own)
    (hclose : close.kind = .flowMappingEnd)
    (hcontinues : Node.continues isFirst .flowMappingEnd state =
      .ok (true, ⟨own ++ close :: rest, anchors⟩))
    (h : Node.readFlowEntries isFirst fuel state = .ok (entries, after)) :
    members.Matches start k entries ∧ after = ⟨rest, anchors⟩ := by
  cases members with
  | one name gap gap' value after' =>
    obtain ⟨front, own, hfront, hvalue, rfl⟩ := hown
    rw [List.append_assoc] at hcontinues
    obtain ⟨text, fuel', fuel'', node, middle, others, htext, hnode, hothers, rfl⟩ :=
      exists_of_emitsName hfront (exists_first_of_emits hvalue) hcontinues h
    obtain ⟨hmatches, rfl⟩ := matches_of_read hvalue hnode
    obtain ⟨rfl, rfl⟩ := Node.eq_of_readFlowEntries (Node.continues_close false hclose) hothers
    exact ⟨⟨text, node, htext, hmatches, rfl⟩, rfl⟩
  | more name gap gap' value after' before others =>
    obtain ⟨front, own, stop, later, hfront, hvalue, hlater, rfl⟩ := hown
    rw [List.append_assoc, List.append_assoc] at hcontinues
    obtain ⟨text, fuel', fuel'', node, middle, entries, htext, hnode, hentries, rfl⟩ :=
      exists_of_emitsName hfront (exists_first_of_emits hvalue) hcontinues h
    obtain ⟨hmatches, rfl⟩ := matches_of_read hvalue hnode
    obtain ⟨hothers, rfl⟩ := matches_of_readFlowEntries hlater hclose
      (Node.continues_comma rfl (by simp) (exists_first_of_emits_members hlater)) hentries
    exact ⟨⟨text, node, entries, htext, hmatches, hothers, rfl⟩, rfl⟩

end

/-- What is read of a whole document is the node of its form. -/
theorem exists_matches_of_readDocument {form : Form} {k fuel : Nat} {own : List Token} {last : Token}
    {result : Option Node} {after : Node.Remaining} (hown : form.Emits start k own)
    (h : Node.readDocument fuel ⟨own ++ [last], []⟩ = .ok (result, after)) :
    ∃ node, result = some node ∧ form.Matches start k node := by
  obtain ⟨first, more, hmore, hfirst⟩ := exists_first_of_emits hown
  -- the document starts with its node, and with none of the marks that may come before one
  have hstop : ∀ kinds : List TokenKind, kinds.all (!Node.startsNode ·) →
      Node.isNext kinds ⟨own ++ [last], []⟩ = .ok (false, ⟨own ++ [last], []⟩) := by
    intro kinds hkinds
    rw [hmore, List.cons_append, Node.isNext_cons]
    have hnot : kinds.contains first.kind = false := by
      by_contra hmem
      have := List.all_eq_true.mp hkinds first.kind (by simpa using hmem)
      simp [hfirst] at this
    rw [hnot]
  rw [Node.readDocument, Node.bind_apply, hstop _ rfl, Node.ok_bind] at h
  change (Node.isNext [.directive, .documentStart] >>= fun found => _) _ = _ at h
  rw [Node.bind_apply, hstop _ rfl, Node.ok_bind] at h
  change (Node.read .block fuel >>= fun found => _) _ = _ at h
  rw [Node.bind_apply] at h
  obtain ⟨⟨node, middle⟩, hnode, h⟩ := exists_of_bind_eq_ok h
  obtain ⟨hmatches, rfl⟩ := matches_of_read hown hnode
  rw [Node.bind_apply] at h
  obtain ⟨_, -, hend⟩ := exists_of_bind_eq_ok h
  obtain ⟨rfl, -⟩ := Prod.mk.inj (Except.ok.inj hend)
  exact ⟨node, rfl, hmatches⟩

/-- The node of a text that is spelled by a form. -/
theorem exists_matches_of_ofText {form : Form} {lead trail : List Char} {text : String}
    {result : Option Node} (hform : form.IsValid) (hlead : lead.all Json.isSpace)
    (htrail : trail.all Json.isSpace) (htext : text.toList = lead ++ (form.chars ++ trail))
    (h : Node.ofText text = .ok result) :
    ∃ node, result = some node ∧ form.Matches (.ofString text) lead.length node := by
  obtain ⟨tokens, htokens, hread⟩ := exists_of_bind_eq_ok h
  obtain ⟨own, last, hown, -, hlist⟩ := exists_tokens_of_ofText hform hlead htrail htext htokens
  rw [hlist] at hread
  change (Node.readDocument _ ⟨own ++ [last], []⟩).map (·.1) = _ at hread
  obtain ⟨⟨found, after⟩, hdocument, rfl⟩ := exists_of_map_eq_ok hread
  exact exists_matches_of_readDocument hown hdocument

end matching

end ProposalCheck.Yaml

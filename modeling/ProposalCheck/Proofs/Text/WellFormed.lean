import Mathlib.Order.Monotone.Basic
import ProposalCheck.Proofs.Source.Rows

/-!
# Well-formed UTF-8

The first byte of a character says how many bytes follow it, and all of them together spell a number in their low
bits. Bytes are well formed if they can be cut into such sequences, none of which is longer than its number needs,
spells a surrogate, or spells a number above U+10FFFF. Reading bytes gives a text exactly if they are well formed,
and that text is the only one with these bytes.

## Main definitions

* `Spells`: the number that a sequence of bytes spells
* `IsForm`: the sequence for a character
* `IsWellFormed`: sequences for characters, one after the other

## Main results

* `isForm_iff`: the sequences for characters are their UTF-8 forms
* `decodeUtf8_eq_ok_iff`: the text that is read from bytes is the one with these bytes
* `isWellFormed_iff`: well-formed bytes are the bytes of a text
-/

namespace ProposalCheck

/-! ### Sequences for one character -/

/-- A byte that follows the first one of a sequence. Its six low bits are part of the number. -/
def IsTail (b : UInt8) : Prop := 0x80 ≤ b.toNat ∧ b.toNat < 0xC0

/-- The number that a sequence of bytes spells: the low bits of the first byte, and then six of each other. -/
inductive Spells : List UInt8 → Nat → Prop
  | one {a : UInt8} {code : Nat} : a.toNat < 0x80 → code = a.toNat → Spells [a] code
  | two {a b : UInt8} {code : Nat} : 0xC0 ≤ a.toNat → a.toNat < 0xE0 → IsTail b →
      code = (a.toNat - 0xC0) * 64 + (b.toNat - 0x80) → Spells [a, b] code
  | three {a b c : UInt8} {code : Nat} : 0xE0 ≤ a.toNat → a.toNat < 0xF0 → IsTail b → IsTail c →
      code = ((a.toNat - 0xE0) * 64 + (b.toNat - 0x80)) * 64 + (c.toNat - 0x80) → Spells [a, b, c] code
  | four {a b c d : UInt8} {code : Nat} : 0xF0 ≤ a.toNat → a.toNat < 0xF8 → IsTail b → IsTail c → IsTail d →
      code = (((a.toNat - 0xF0) * 64 + (b.toNat - 0x80)) * 64 + (c.toNat - 0x80)) * 64 + (d.toNat - 0x80) →
      Spells [a, b, c, d] code

/-- The sequence for the character with a number: the shortest one that spells it, if there is such a character. -/
structure IsForm (bytes : List UInt8) (code : Nat) : Prop where
  spells : Spells bytes code
  shortest : ∀ other, Spells other code → bytes.length ≤ other.length
  notSurrogate : ¬(0xD800 ≤ code ∧ code ≤ 0xDFFF)
  le : code ≤ 0x10FFFF

/-- Sequences for characters, one after the other. -/
inductive IsWellFormed : List UInt8 → Prop
  | nil : IsWellFormed []
  | append {bytes rest : List UInt8} {code : Nat} : IsForm bytes code → IsWellFormed rest →
      IsWellFormed (bytes ++ rest)

variable {bytes rest : List UInt8} {code : Nat} {cs : List Char}

/-- Sequences of `length` bytes spell numbers below this one. -/
def spellingLimit : Nat → Nat
  | 0 => 0
  | 1 => 0x80
  | 2 => 0x800
  | 3 => 0x10000
  | _ => 0x200000

theorem spellingLimit_mono : Monotone spellingLimit := by
  refine monotone_nat_of_le_succ fun length => ?_
  rcases length with _ | _ | _ | _ | length <;> simp [spellingLimit]

theorem Spells.lt (h : Spells bytes code) : code < spellingLimit bytes.length := by
  cases h with
  | one ha hcode =>
    show code < 0x80
    omega
  | two ha ha' hb hcode =>
    obtain ⟨hb, hb'⟩ := hb
    show code < 0x800
    omega
  | three ha ha' hb hc hcode =>
    obtain ⟨⟨hb, hb'⟩, hc, hc'⟩ := And.intro hb hc
    show code < 0x10000
    omega
  | four ha ha' hb hc hd hcode =>
    obtain ⟨⟨hb, hb'⟩, ⟨hc, hc'⟩, hd, hd'⟩ := And.intro hb (And.intro hc hd)
    show code < 0x200000
    omega

/-- Sequences of one length spell different numbers. -/
theorem Spells.unique {other : List UInt8} (h : Spells bytes code) (hother : Spells other code)
    (hlength : bytes.length = other.length) : bytes = other := by
  cases h <;> cases hother <;> try cases hlength
  all_goals
    simp only [IsTail, List.cons.injEq, and_true, ← UInt8.toNat_inj] at *
    omega

/-- A sequence whose number is too large for fewer bytes is the shortest one. -/
theorem IsForm.of_le (h : Spells bytes code) (hle : spellingLimit (bytes.length - 1) ≤ code)
    (hsurrogate : ¬(0xD800 ≤ code ∧ code ≤ 0xDFFF)) (hmax : code ≤ 0x10FFFF) : IsForm bytes code := by
  refine ⟨h, fun other hother => ?_, hsurrogate, hmax⟩
  by_contra hshorter
  have hlimit := spellingLimit_mono (show other.length ≤ bytes.length - 1 by omega)
  exact absurd hother.lt (by omega)

/-! ### Forms of characters -/

theorem spells_utf8EncodeChar (c : Char) : Spells (String.utf8EncodeChar c) c.toNat ∧
    spellingLimit ((String.utf8EncodeChar c).length - 1) ≤ c.toNat := by
  have hvalid : c.toNat.isValidChar := c.valid
  have hval : c.val.toNat = c.toNat := rfl
  rw [String.utf8EncodeChar, hval]
  generalize c.toNat = code at hvalid
  unfold Nat.isValidChar at hvalid
  split_ifs
  · refine ⟨.one ?_ ?_, Nat.zero_le _⟩ <;> simp only [UInt8.toNat_ofNat'] <;> omega
  · refine ⟨.two ?_ ?_ ⟨?_, ?_⟩ ?_, ?_⟩ <;> simp only [UInt8.toNat_ofNat', List.length, spellingLimit] <;> omega
  · refine ⟨.three ?_ ?_ ⟨?_, ?_⟩ ⟨?_, ?_⟩ ?_, ?_⟩ <;>
      simp only [UInt8.toNat_ofNat', List.length, spellingLimit] <;> omega
  · refine ⟨.four ?_ ?_ ⟨?_, ?_⟩ ⟨?_, ?_⟩ ⟨?_, ?_⟩ ?_, ?_⟩ <;>
      simp only [UInt8.toNat_ofNat', List.length, spellingLimit] <;> omega

theorem isForm_utf8EncodeChar (c : Char) : IsForm (String.utf8EncodeChar c) c.toNat := by
  obtain ⟨hspells, hle⟩ := spells_utf8EncodeChar c
  have hvalid : c.toNat.isValidChar := c.valid
  unfold Nat.isValidChar at hvalid
  exact .of_le hspells hle (by omega) (by omega)

/-- The sequence for a number is the form of the character with this number. -/
theorem IsForm.eq_utf8EncodeChar (h : IsForm bytes code) :
    (Char.ofNat code).toNat = code ∧ String.utf8EncodeChar (Char.ofNat code) = bytes := by
  have hvalid : code.isValidChar := by
    have := h.notSurrogate
    have := h.le
    unfold Nat.isValidChar
    omega
  have hcode : (Char.ofNat code).toNat = code := by
    rw [Char.ofNat, dif_pos hvalid]
    rfl
  have hform := isForm_utf8EncodeChar (Char.ofNat code)
  rw [hcode] at hform
  have hlength := Nat.le_antisymm (hform.shortest _ h.spells) (h.shortest _ hform.spells)
  exact ⟨hcode, hform.spells.unique h.spells hlength⟩

theorem isForm_iff : IsForm bytes code ↔ ∃ c : Char, c.toNat = code ∧ String.utf8EncodeChar c = bytes := by
  constructor
  · intro h
    exact ⟨Char.ofNat code, h.eq_utf8EncodeChar⟩
  · rintro ⟨c, rfl, rfl⟩
    exact isForm_utf8EncodeChar c

/-- Well-formed bytes are the bytes of characters. -/
theorem isWellFormed_iff_charBytes : IsWellFormed bytes ↔ ∃ cs, charBytes cs = bytes := by
  constructor
  · intro h
    induction h with
    | nil => exact ⟨[], rfl⟩
    | append hform _ ih =>
      obtain ⟨c, -, hc⟩ := isForm_iff.mp hform
      obtain ⟨cs, hcs⟩ := ih
      exact ⟨c :: cs, by rw [charBytes_cons, hc, hcs]⟩
  · rintro ⟨cs, rfl⟩
    induction cs with
    | nil => exact .nil
    | cons c cs ih => exact .append (isForm_utf8EncodeChar c) ih

/-! ### Reading bytes -/

/-- A first byte says how many bytes follow it, and leaves out those next ones with which the sequence would be too
long, or spell a surrogate or a number that is too large. -/
theorem leadByte?_eq_some_iff {b low high remaining bits : Nat} :
    leadByte? b = some (low, high, remaining, bits) ↔
      (0xC2 ≤ b ∧ b ≤ 0xDF ∧ low = 0x80 ∧ high = 0xBF ∧ remaining = 1 ∧ bits = b - 0xC0) ∨
      (0xE0 ≤ b ∧ b ≤ 0xEF ∧ low = (if b = 0xE0 then 0xA0 else 0x80) ∧
        high = (if b = 0xED then 0x9F else 0xBF) ∧ remaining = 2 ∧ bits = b - 0xE0) ∨
      (0xF0 ≤ b ∧ b ≤ 0xF4 ∧ low = (if b = 0xF0 then 0x90 else 0x80) ∧
        high = (if b = 0xF4 then 0x8F else 0xBF) ∧ remaining = 3 ∧ bits = b - 0xF0) := by
  rw [leadByte?]
  grind

section Continuing

variable {low high remaining bits : Nat}

theorem decodeBytes_last_eq_ok_iff : decodeBytes (some ⟨low, high, 1, bits⟩) bytes = .ok cs ↔
    ∃ b rest ds, bytes = b :: rest ∧ (low ≤ b.toNat ∧ b.toNat ≤ high) ∧ decodeBytes none rest = .ok ds ∧
      cs = Char.ofNat (bits * 64 + (b.toNat - 0x80)) :: ds := by
  constructor
  · intro h
    cases bytes with
    | nil => cases h
    | cons b rest =>
      rw [decodeBytes] at h
      dsimp only at h
      rw [if_pos (Nat.le_refl 1)] at h
      split_ifs at h with hrange
      obtain ⟨ds, hds, rfl⟩ := exists_of_map_eq_ok h
      exact ⟨b, rest, ds, rfl, hrange, hds, rfl⟩
  · rintro ⟨b, rest, ds, rfl, hrange, hds, rfl⟩
    rw [decodeBytes, if_pos hrange, hds]
    rfl

theorem decodeBytes_more_eq_ok_iff : decodeBytes (some ⟨low, high, remaining + 2, bits⟩) bytes = .ok cs ↔
    ∃ b rest, bytes = b :: rest ∧ (low ≤ b.toNat ∧ b.toNat ≤ high) ∧
      decodeBytes (some ⟨0x80, 0xBF, remaining + 1, bits * 64 + (b.toNat - 0x80)⟩) rest = .ok cs := by
  have hmore : ¬remaining + 2 ≤ 1 := by omega
  constructor
  · intro h
    cases bytes with
    | nil => cases h
    | cons b rest =>
      rw [decodeBytes] at h
      dsimp only at h
      split_ifs at h with hrange
      exact ⟨b, rest, rfl, hrange, h⟩
  · rintro ⟨b, rest, rfl, hrange, h⟩
    rw [decodeBytes, if_pos hrange]
    dsimp only
    rwa [if_neg hmore]

end Continuing

/-- What is read from a sequence for a character and more bytes. -/
theorem decodeBytes_append (h : IsForm bytes code) {ds : List Char} (hrest : decodeBytes none rest = .ok ds) :
    decodeBytes none (bytes ++ rest) = .ok (Char.ofNat code :: ds) := by
  have hle : spellingLimit (bytes.length - 1) ≤ code := by
    obtain ⟨c, rfl, rfl⟩ := isForm_iff.mp h
    exact (spells_utf8EncodeChar c).2
  have hmax := h.le
  have hsurrogate := h.notSurrogate
  -- the first byte tells how many more there are and between which bounds the second one lies
  have hlead : ∀ {a : UInt8} {low high remaining bits : Nat} {tail : List UInt8} {cs : List Char},
      0x80 ≤ a.toNat → leadByte? a.toNat = some (low, high, remaining, bits) →
      decodeBytes (some ⟨low, high, remaining, bits⟩) tail = .ok cs → decodeBytes none (a :: tail) = .ok cs := by
    intro a low high remaining bits tail cs ha hlead htail
    rw [decodeBytes, if_neg (by omega), hlead]
    exact htail
  cases h.spells with
  | @one a _ ha hcode =>
    rw [List.singleton_append, decodeBytes, if_pos ha, hrest, hcode]
    rfl
  | @two a b _ ha ha' hb hcode =>
    simp only [List.length, spellingLimit] at hle
    obtain ⟨hb, hb'⟩ := hb
    refine hlead (by omega) (leadByte?_eq_some_iff.mpr (.inl ⟨by omega, by omega, rfl, rfl, rfl, rfl⟩)) ?_
    refine decodeBytes_last_eq_ok_iff.mpr ⟨b, rest, ds, rfl, by omega, hrest, ?_⟩
    rw [hcode]
  | @three a b c _ ha ha' hb hc hcode =>
    simp only [List.length, spellingLimit] at hle
    obtain ⟨⟨hb, hb'⟩, hc, hc'⟩ := And.intro hb hc
    refine hlead (by omega) (leadByte?_eq_some_iff.mpr (.inr (.inl ⟨ha, by omega, rfl, rfl, rfl, rfl⟩))) ?_
    refine decodeBytes_more_eq_ok_iff.mpr ⟨b, c :: rest, rfl, by split_ifs <;> omega, ?_⟩
    refine decodeBytes_last_eq_ok_iff.mpr ⟨c, rest, ds, rfl, by omega, hrest, ?_⟩
    rw [hcode]
  | @four a b c d _ ha ha' hb hc hd hcode =>
    simp only [List.length, spellingLimit] at hle
    obtain ⟨⟨hb, hb'⟩, ⟨hc, hc'⟩, hd, hd'⟩ := And.intro hb (And.intro hc hd)
    refine hlead (by omega) (leadByte?_eq_some_iff.mpr (.inr (.inr ⟨ha, by omega, rfl, rfl, rfl, rfl⟩))) ?_
    refine decodeBytes_more_eq_ok_iff.mpr ⟨b, c :: d :: rest, rfl, by split_ifs <;> omega, ?_⟩
    refine decodeBytes_more_eq_ok_iff.mpr ⟨c, d :: rest, rfl, by omega, ?_⟩
    refine decodeBytes_last_eq_ok_iff.mpr ⟨d, rest, ds, rfl, by omega, hrest, ?_⟩
    rw [hcode]

/-- What can be read begins with a sequence for a character, and the rest can be read, too. -/
theorem exists_form_of_decodeBytes {b : UInt8} (h : decodeBytes none (b :: rest) = .ok cs) :
    ∃ form others code ds, b :: rest = form ++ others ∧ IsForm form code ∧ decodeBytes none others = .ok ds ∧
      cs = Char.ofNat code :: ds := by
  rw [decodeBytes] at h
  split_ifs at h with hascii
  · obtain ⟨ds, hds, rfl⟩ := exists_of_map_eq_ok h
    exact ⟨[b], rest, b.toNat, ds, rfl, .of_le (.one hascii rfl) (Nat.zero_le _) (by omega) (by omega), hds, rfl⟩
  · split at h
    · cases h
    · rename_i low high remaining bits hlead
      replace hlead := leadByte?_eq_some_iff.mp hlead
      -- one case for each number of bytes; the bounds of the second byte rule out longer spellings, surrogates
      -- and codes too great
      rcases hlead with ⟨hb, hb', rfl, rfl, rfl, hbits⟩ | ⟨hb, hb', hlow, hhigh, rfl, hbits⟩ |
        ⟨hb, hb', hlow, hhigh, rfl, hbits⟩
      · obtain ⟨c, others, ds, rfl, hc, hds, rfl⟩ := decodeBytes_last_eq_ok_iff.mp h
        refine ⟨[b, c], others, _, ds, rfl, ?_, hds, rfl⟩
        refine .of_le (.two (by omega) (by omega) ⟨by omega, by omega⟩ (by rw [hbits])) ?_ (by omega) (by omega)
        show 0x80 ≤ _
        omega
      · obtain ⟨c, _, rfl, hc, h⟩ := decodeBytes_more_eq_ok_iff.mp h
        obtain ⟨d, others, ds, rfl, hd, hds, rfl⟩ := decodeBytes_last_eq_ok_iff.mp h
        refine ⟨[b, c, d], others, _, ds, rfl, ?_, hds, rfl⟩
        split_ifs at hlow hhigh
        all_goals
          refine .of_le (.three (by omega) (by omega) ⟨by omega, by omega⟩ ⟨by omega, by omega⟩ (by rw [hbits])) ?_
            (by omega) (by omega)
          show 0x800 ≤ _
          omega
      · obtain ⟨c, _, rfl, hc, h⟩ := decodeBytes_more_eq_ok_iff.mp h
        obtain ⟨d, _, rfl, hd, h⟩ := decodeBytes_more_eq_ok_iff.mp h
        obtain ⟨e, others, ds, rfl, he, hds, rfl⟩ := decodeBytes_last_eq_ok_iff.mp h
        refine ⟨[b, c, d, e], others, _, ds, rfl, ?_, hds, rfl⟩
        split_ifs at hlow hhigh
        all_goals
          refine .of_le (.four (by omega) (by omega) ⟨by omega, by omega⟩ ⟨by omega, by omega⟩ ⟨by omega, by omega⟩
            (by rw [hbits])) ?_ (by omega) (by omega)
          show 0x10000 ≤ _
          omega

/-- The characters that are read from bytes are those with these bytes. -/
theorem decodeBytes_eq_ok_iff : decodeBytes none bytes = .ok cs ↔ charBytes cs = bytes := by
  constructor
  · intro h
    -- by induction on the number of bytes: behind the first character there are fewer
    induction hlength : bytes.length using Nat.strongRecOn generalizing bytes cs with
    | ind length ih =>
      subst hlength
      cases bytes with
      | nil =>
        obtain rfl := Except.ok.inj h
        rfl
      | cons b rest =>
        obtain ⟨form, others, code, ds, hbytes, hform, hds, rfl⟩ := exists_form_of_decodeBytes h
        have hshorter : others.length < (b :: rest).length := by
          have hpos : form ≠ [] := by
            rintro rfl
            cases hform.spells
          rw [hbytes, List.length_append]
          exact Nat.lt_add_of_pos_left (List.length_pos_iff.mpr hpos)
        rw [charBytes_cons, hform.eq_utf8EncodeChar.2, ih _ hshorter hds rfl, hbytes]
  · rintro rfl
    induction cs with
    | nil => rfl
    | cons c cs ih =>
      have hread := decodeBytes_append (isForm_utf8EncodeChar c) ih
      rwa [Char.ofNat_toNat] at hread

/-- The text that is read from bytes is the one with these bytes. -/
theorem decodeUtf8_eq_ok_iff {text : String} : decodeUtf8 bytes = .ok text ↔ textBytes text = bytes := by
  rw [textBytes_eq, ← decodeBytes_eq_ok_iff, decodeUtf8]
  constructor
  · intro h
    obtain ⟨cs, hcs, rfl⟩ := exists_of_map_eq_ok h
    rw [hcs, String.toList_ofList]
  · intro h
    rw [h, Except.map, String.ofList_toList]

theorem textBytes_injective : Function.Injective textBytes := by
  intro text other h
  have hread := decodeUtf8_eq_ok_iff.mpr h
  rw [decodeUtf8_eq_ok_iff.mpr rfl] at hread
  exact (Except.ok.inj hread).symm

/-- Well-formed bytes are the bytes of a text. -/
theorem isWellFormed_iff : IsWellFormed bytes ↔ ∃ text, textBytes text = bytes := by
  rw [isWellFormed_iff_charBytes]
  constructor
  · rintro ⟨cs, rfl⟩
    exact ⟨String.ofList cs, textBytes_ofList cs⟩
  · rintro ⟨text, rfl⟩
    exact ⟨text.toList, (textBytes_eq text).symm⟩

end ProposalCheck

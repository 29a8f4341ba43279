import Mathlib.Data.List.Basic
import ProposalCheck.Text.Utf8

/-!
# The bytes of a text

Offsets count the bytes of the UTF-8 form of a text, so what stands at an offset is a byte of that form.
A character of ASCII is one byte, and no byte of any other character looks like it: line ends can be
found among the bytes as well as among the characters.

## Main definitions

* `charBytes`, `textBytes`: the bytes of characters, and of a text

## Main results

* `length_charBytes`: there are as many bytes as `byteLength` says
* `mem_charBytes`: a byte of ASCII stands only where its character stands
* `getLast?_charBytes`: the same for the last byte
-/

namespace ProposalCheck

/-- The bytes of `cs` in UTF-8. -/
def charBytes (cs : List Char) : List UInt8 := cs.flatMap String.utf8EncodeChar

/-- The bytes of a text in UTF-8. -/
def textBytes (text : String) : List UInt8 := text.toByteArray.data.toList

@[simp] theorem charBytes_nil : charBytes [] = [] := rfl

@[simp] theorem charBytes_cons (c : Char) (cs : List Char) :
    charBytes (c :: cs) = String.utf8EncodeChar c ++ charBytes cs := rfl

@[simp] theorem charBytes_append (cs ds : List Char) :
    charBytes (cs ++ ds) = charBytes cs ++ charBytes ds := List.flatMap_append ..

@[simp] theorem length_charBytes (cs : List Char) : (charBytes cs).length = byteLength cs := by
  induction cs with
  | nil => rfl
  | cons c cs ih => simp [byteLength, ih]

@[simp] theorem byteLength_append (cs ds : List Char) :
    byteLength (cs ++ ds) = byteLength cs + byteLength ds := by
  rw [← length_charBytes, charBytes_append, List.length_append, length_charBytes, length_charBytes]

theorem charBytes_feed (cs : List Char) : charBytes ('\n' :: cs) = 10 :: charBytes cs := rfl

/-- Every character has a byte, so only the empty text has none. -/
theorem byteLength_pos_iff {cs : List Char} : 0 < byteLength cs ↔ cs ≠ [] := by
  cases cs with
  | nil => simp [byteLength]
  | cons c cs => simpa [byteLength] using Nat.add_pos_left c.utf8Size_pos (byteLength cs)

theorem byteLength_feed (cs : List Char) : byteLength ('\n' :: cs) = byteLength cs + 1 :=
  Nat.add_comm ..

theorem textBytes_eq (text : String) : textBytes text = charBytes text.toList := by
  rw [textBytes, ← String.utf8Encode_toList, List.utf8Encode]
  simp [charBytes]

@[simp] theorem textBytes_ofList (cs : List Char) : textBytes (String.ofList cs) = charBytes cs := by
  rw [textBytes_eq, String.toList_ofList]

@[simp] theorem textBytes_append (s t : String) : textBytes (s ++ t) = textBytes s ++ textBytes t := by
  simp [textBytes_eq]

@[simp] theorem length_textBytes (text : String) : (textBytes text).length = text.utf8ByteSize := by
  rw [textBytes, Array.length_toList]
  rfl

theorem byteLength_toList (text : String) : byteLength text.toList = text.utf8ByteSize := by
  rw [← length_charBytes, ← textBytes_eq, length_textBytes]

/-! ### Counting characters -/

theorem charsBefore_zero (cs : List Char) : charsBefore 0 cs = 0 := by cases cs <;> rfl

theorem charsBefore_add_append (offset : Nat) (pre post : List Char) :
    charsBefore (byteLength pre + offset) (pre ++ post) = pre.length + charsBefore offset post := by
  induction pre with
  | nil => simp [byteLength]
  | cons c pre ih =>
    have hpos := c.utf8Size_pos
    have hrest : c.utf8Size + byteLength pre + offset - c.utf8Size = byteLength pre + offset := by omega
    rw [List.cons_append, byteLength, charsBefore, if_neg (by omega), hrest, ih, List.length_cons, Nat.add_right_comm]

theorem charsBefore_append (pre post : List Char) : charsBefore (byteLength pre) (pre ++ post) = pre.length := by
  rw [← Nat.add_zero (byteLength pre), charsBefore_add_append, charsBefore_zero, Nat.add_zero]

/-! ### Characters of ASCII -/

theorem utf8EncodeChar_of_lt {c : Char} (h : c.toNat < 128) :
    String.utf8EncodeChar c = [UInt8.ofNat c.toNat] := by
  have hle : c.val.toNat ≤ 0x7f := Nat.le_of_lt_succ h
  simp only [String.utf8EncodeChar, hle, if_true]
  rfl

/-- Every byte of a character outside of ASCII is at least 128. -/
theorem le_of_mem_utf8EncodeChar {c : Char} {b : UInt8} (hc : 128 ≤ c.toNat)
    (hb : b ∈ String.utf8EncodeChar c) : 128 ≤ b.toNat := by
  have hbig : ¬c.val.toNat ≤ 0x7f := Nat.not_le_of_lt hc
  simp only [String.utf8EncodeChar, hbig, if_false] at hb
  split at hb
  · simp only [List.mem_cons, List.not_mem_nil, or_false] at hb
    rcases hb with rfl | rfl <;> simp only [UInt8.toNat_ofNat'] <;> omega
  · split at hb
    · simp only [List.mem_cons, List.not_mem_nil, or_false] at hb
      rcases hb with rfl | rfl | rfl <;> simp only [UInt8.toNat_ofNat'] <;> omega
    · simp only [List.mem_cons, List.not_mem_nil, or_false] at hb
      rcases hb with rfl | rfl | rfl | rfl <;> simp only [UInt8.toNat_ofNat'] <;> omega

/-- A byte of ASCII occurs in no other character. -/
theorem eq_of_mem_utf8EncodeChar {c a : Char} (ha : a.toNat < 128)
    (hmem : UInt8.ofNat a.toNat ∈ String.utf8EncodeChar c) : c = a := by
  have hbyte : (UInt8.ofNat a.toNat).toNat = a.toNat := by
    rw [UInt8.toNat_ofNat']
    omega
  rcases Nat.lt_or_ge c.toNat 128 with hc | hc
  · rw [utf8EncodeChar_of_lt hc, List.mem_singleton] at hmem
    have heq := congrArg UInt8.toNat hmem
    rw [hbyte, UInt8.toNat_ofNat', Nat.mod_eq_of_lt (by omega)] at heq
    exact Char.toNat_inj.mp heq.symm
  · have hle := le_of_mem_utf8EncodeChar hc hmem
    omega

theorem mem_charBytes {a : Char} (ha : a.toNat < 128) {cs : List Char} :
    UInt8.ofNat a.toNat ∈ charBytes cs ↔ a ∈ cs := by
  rw [charBytes, List.mem_flatMap]
  constructor
  · rintro ⟨c, hc, hmem⟩
    exact eq_of_mem_utf8EncodeChar ha hmem ▸ hc
  · intro h
    exact ⟨a, h, by simp [utf8EncodeChar_of_lt ha]⟩

theorem getLast?_charBytes {a : Char} (ha : a.toNat < 128) {cs : List Char} :
    (charBytes cs).getLast? = some (UInt8.ofNat a.toNat) ↔ cs.getLast? = some a := by
  rcases List.eq_nil_or_concat cs with rfl | ⟨pre, c, rfl⟩
  · simp
  · have hne : String.utf8EncodeChar c ≠ [] := by
      rw [← List.length_pos_iff, String.length_utf8EncodeChar]
      exact c.utf8Size_pos
    simp only [List.concat_eq_append, charBytes_append, charBytes_cons, charBytes_nil,
      List.append_nil, List.getLast?_append_of_ne_nil _ hne, List.getLast?_concat, Option.some.injEq]
    constructor
    · intro h
      exact eq_of_mem_utf8EncodeChar ha (List.mem_of_getLast? h)
    · rintro rfl
      simp [utf8EncodeChar_of_lt ha]

end ProposalCheck

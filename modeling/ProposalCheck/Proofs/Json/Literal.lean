import Mathlib.Data.List.Basic
import ProposalCheck.Json.Decode
import ProposalCheck.Proofs.Source.Rows

/-!
# Strings of a JSON text as they are written

Between its quotes a string is a row of glyphs: characters that stand for themselves and escapes. The
reader of strings reads a row of glyphs alike wherever it stands, and whatever it has read is one.

## Main definitions

* `Glyph`: a character of a string as it is written
* `Glyph.written`: the characters of some glyphs
* `Glyph.text`: the text that they stand for

## Main results

* `Glyph.scanString_written`: how glyphs are read, whatever follows the closing quote
* `Glyph.exists_of_scanString`: what has been read is a row of glyphs
-/

namespace ProposalCheck

namespace Json

/-- A character of a string as it is written between the quotes. -/
inductive Glyph where
  | plain (c : Char)
  /-- A backslash and a letter. -/
  | short (c : Char)
  /-- A backslash, the letter `u` and four hexadecimal digits. -/
  | code (digits : List Char)

namespace Glyph

/-- How a glyph is written. -/
def chars : Glyph → List Char
  | plain c => [c]
  | short c => ['\\', c]
  | code digits => '\\' :: 'u' :: digits

/-- May a glyph stand in a string? -/
def IsValid : Glyph → Prop
  | plain c => c ≠ '"' ∧ c ≠ '\\' ∧ 0x1F < c.toNat
  | short c => ∃ char, shortEscape? c = some char
  | code digits => digits.length = 4 ∧ ∀ d ∈ digits, (hexDigit? d).isSome

/-- How a row of glyphs is written. -/
def written (glyphs : List Glyph) : List Char := glyphs.flatMap chars

@[simp] theorem written_nil : written [] = [] := rfl

@[simp] theorem written_cons (glyph : Glyph) (glyphs : List Glyph) :
    written (glyph :: glyphs) = glyph.chars ++ written glyphs := rfl

theorem length_le_written (glyphs : List Glyph) : glyphs.length ≤ (written glyphs).length := by
  induction glyphs with
  | nil => exact Nat.le_refl 0
  | cons glyph glyphs ih =>
    have : 1 ≤ glyph.chars.length := by cases glyph <;> simp [chars]
    simp only [written_cons, List.length_append, List.length_cons]
    omega

theorem shortEscape?_u : shortEscape? 'u' = none := rfl

theorem ne_u_of_isValid {c : Char} (h : (short c).IsValid) : c ≠ 'u' := by
  rintro rfl
  obtain ⟨char, hchar⟩ := h
  simp [shortEscape?_u] at hchar

/-- Four digits are read alike whatever follows them. -/
theorem hexFour?_append {digits rest : List Char} (hlength : digits.length = 4)
    (hdigits : ∀ d ∈ digits, (hexDigit? d).isSome) :
    hexFour? (digits ++ rest) = some (hexValue digits, rest) := by
  match digits, hlength with
  | [a, b, c, d], _ =>
    simp only [List.mem_cons, List.not_mem_nil, or_false, forall_eq_or_imp, forall_eq,
      Option.isSome_iff_exists] at hdigits
    obtain ⟨⟨a', ha⟩, ⟨b', hb⟩, ⟨c', hc⟩, ⟨d', hd⟩⟩ := hdigits
    simp [hexFour?, hexValue, ha, hb, hc, hd]

theorem exists_of_hexFour? {cs rest : List Char} {code : Nat} (h : hexFour? cs = some (code, rest)) :
    ∃ digits, cs = digits ++ rest ∧ digits.length = 4 ∧ (∀ d ∈ digits, (hexDigit? d).isSome) ∧
      hexValue digits = code := by
  match cs with
  | [] | [_] | [_, _] | [_, _, _] => simp [hexFour?] at h
  | a :: b :: c :: d :: more =>
    simp only [hexFour?, Option.bind_eq_bind, Option.bind_eq_some_iff, Option.pure_def,
      Option.some.injEq, Prod.mk.injEq] at h
    obtain ⟨a', ha, b', hb, c', hc, d', hd, hcode, rfl⟩ := h
    exact ⟨[a, b, c, d], rfl, rfl, by simp [ha, hb, hc, hd], by simp [hexValue, ha, hb, hc, hd, hcode]⟩

theorem unicodeEscape_append {digits rest : List Char} (hvalid : (code digits).IsValid)
    (hrest : rest ≠ []) : unicodeEscape (digits ++ rest) = .ok (hexValue digits, rest) := by
  simp [unicodeEscape, hexFour?_append hvalid.1 hvalid.2, hrest]

/-- A code behind half of a surrogate pair is joined to it if it is the other half. -/
theorem pairEscape_code (high : Nat) {low : List Char} (hvalid : (code low).IsValid) (glyphs : List Glyph)
    (rest : List Char) :
    pairEscape high (written (code low :: glyphs) ++ '"' :: rest) =
      if 0xDC00 ≤ hexValue low ∧ hexValue low ≤ 0xDFFF then
        .ok (Char.ofNat (0x10000 + (high - 0xD800) * 0x400 + (hexValue low - 0xDC00)),
          written glyphs ++ '"' :: rest)
      else .ok (surrogateStandIn high, written (code low :: glyphs) ++ '"' :: rest) := by
  have hshort : ¬(low ++ (written glyphs ++ '"' :: rest)).length + 1 + 1 < 7 := by
    simp only [List.length_append, List.length_cons, hvalid.1]
    omega
  simp only [written_cons, chars, List.cons_append, List.append_assoc, pairEscape, List.length_cons,
    hshort, if_false, hexFour?_append hvalid.1 hvalid.2]

/-- Half of a surrogate pair either stands alone or is joined to the glyph after it. -/
theorem pairEscape_written (high : Nat) {glyphs : List Glyph} (hvalid : ∀ g ∈ glyphs, g.IsValid) :
    ∃ char after, after.length ≤ glyphs.length ∧ (∀ g ∈ after, g.IsValid) ∧
      ∀ rest, pairEscape high (written glyphs ++ '"' :: rest) =
        .ok (char, written after ++ '"' :: rest) := by
  -- only an escape that is the second half of a pair is joined to the first half
  have halone : (∀ rest, pairEscape high (written glyphs ++ '"' :: rest) =
      .ok (surrogateStandIn high, written glyphs ++ '"' :: rest)) →
      ∃ char after, after.length ≤ glyphs.length ∧ (∀ g ∈ after, g.IsValid) ∧
        ∀ rest, pairEscape high (written glyphs ++ '"' :: rest) =
          .ok (char, written after ++ '"' :: rest) :=
    fun h => ⟨_, glyphs, Nat.le_refl _, hvalid, h⟩
  cases glyphs with
  | nil => exact halone fun rest => by simp [pairEscape]
  | cons glyph glyphs =>
    have hglyph := hvalid glyph List.mem_cons_self
    cases glyph with
    | plain c => exact halone fun rest => by simp [pairEscape, chars, hglyph.2.1]
    | short c =>
      have hu := ne_u_of_isValid hglyph
      exact halone fun rest => by simp [pairEscape, chars, hu]
    | code low =>
      by_cases hlow : 0xDC00 ≤ hexValue low ∧ hexValue low ≤ 0xDFFF
      · have htail : ∀ g ∈ glyphs, g.IsValid := fun g hg => hvalid g (List.mem_cons_of_mem _ hg)
        refine ⟨Char.ofNat (0x10000 + (high - 0xD800) * 0x400 + (hexValue low - 0xDC00)), glyphs,
          Nat.le_succ _, htail, fun rest => ?_⟩
        rw [pairEscape_code high hglyph, if_pos hlow]
      · exact halone fun rest => by rw [pairEscape_code high hglyph, if_neg hlow]

/-- One step reads a character from the first glyph, or from two of them. -/
theorem exists_scanString_step {glyph : Glyph} {glyphs : List Glyph}
    (hvalid : ∀ g ∈ glyph :: glyphs, g.IsValid) :
    ∃ char after, after.length ≤ glyphs.length ∧ (∀ g ∈ after, g.IsValid) ∧
      ∀ opening fuel read rest,
        scanString opening (fuel + 1) read (written (glyph :: glyphs) ++ '"' :: rest) =
          scanString opening fuel (char :: read) (written after ++ '"' :: rest) := by
  obtain ⟨hglyph, htail⟩ := List.forall_mem_cons.mp hvalid
  cases glyph with
  | plain c =>
    obtain ⟨hquote, hslash, hcontrol⟩ := hglyph
    refine ⟨c, glyphs, Nat.le_refl _, htail, fun opening fuel read rest => ?_⟩
    simp [scanString, chars, hquote, hslash, Nat.not_le_of_lt hcontrol]
  | short c =>
    have hu := ne_u_of_isValid hglyph
    obtain ⟨char, hchar⟩ := hglyph
    refine ⟨char, glyphs, Nat.le_refl _, htail, fun opening fuel read rest => ?_⟩
    simp [scanString, chars, hchar]
  | code digits =>
    have hescape : ∀ rest, unicodeEscape (digits ++ (written glyphs ++ '"' :: rest)) =
        .ok (hexValue digits, written glyphs ++ '"' :: rest) :=
      fun rest => unicodeEscape_append hglyph (by simp)
    -- the first half of a pair takes the glyph behind it along, if that is the second half
    by_cases hhigh : 0xD800 ≤ hexValue digits ∧ hexValue digits ≤ 0xDBFF
    · obtain ⟨char, after, hle, hafter, hpair⟩ := pairEscape_written (hexValue digits) htail
      refine ⟨char, after, hle, hafter, fun opening fuel read rest => ?_⟩
      simp [scanString, chars, hescape, hhigh, hpair, bind, Except.bind]
    · refine ⟨if 0xDC00 ≤ hexValue digits ∧ hexValue digits ≤ 0xDFFF then
          surrogateStandIn (hexValue digits) else Char.ofNat (hexValue digits),
        glyphs, Nat.le_refl _, htail, fun opening fuel read rest => ?_⟩
      simp only [scanString, written_cons, chars, List.cons_append, List.append_assoc, hescape, bind,
        Except.bind, hhigh, if_false]
      split_ifs <;> simp_all

/-- Glyphs are read alike whatever has been read before them and whatever follows the closing quote. -/
theorem exists_scanString_written (glyphs : List Glyph) (hvalid : ∀ g ∈ glyphs, g.IsValid) :
    ∃ cs, ∀ opening fuel read rest, glyphs.length < fuel →
      scanString opening fuel read (written glyphs ++ '"' :: rest) =
        .ok (String.ofList (read.reverse ++ cs), rest) := by
  -- a joined pair takes two glyphs at once, so the induction is on the length
  induction hlength : glyphs.length using Nat.strongRecOn generalizing glyphs with
  | _ n ih =>
  subst hlength
  cases glyphs with
  | nil =>
    refine ⟨[], fun opening fuel read rest hfuel => ?_⟩
    obtain ⟨fuel, rfl⟩ := Nat.exists_eq_add_of_lt hfuel
    simp [scanString]
  | cons glyph glyphs =>
    obtain ⟨char, after, hle, hafter, hread⟩ := exists_scanString_step hvalid
    obtain ⟨cs, hcs⟩ := ih after.length (Nat.lt_succ_of_le hle) after hafter rfl
    refine ⟨char :: cs, fun opening fuel read rest hfuel => ?_⟩
    obtain ⟨fuel, rfl⟩ : ∃ k, fuel = k + 1 := ⟨fuel - 1, by omega⟩
    rw [List.length_cons] at hfuel
    rw [hread, hcs _ _ _ _ (by omega)]
    simp

/-- The text that glyphs stand for. -/
def text (glyphs : List Glyph) : String :=
  match scanString 0 (glyphs.length + 1) [] (written glyphs ++ ['"']) with
  | .ok (text, _) => text
  | .error _ => ""

theorem scanString_written {glyphs : List Glyph} (hvalid : ∀ g ∈ glyphs, g.IsValid)
    {opening fuel : Nat} (hfuel : glyphs.length < fuel) (rest : List Char) :
    scanString opening fuel [] (written glyphs ++ '"' :: rest) = .ok (text glyphs, rest) := by
  obtain ⟨cs, hcs⟩ := exists_scanString_written glyphs hvalid
  rw [hcs _ _ _ _ hfuel, text, hcs _ _ _ _ (Nat.lt_succ_self _)]

/-- What follows half of a surrogate pair is read as glyphs or left as it is. -/
theorem exists_of_pairEscape {high : Nat} {cs after : List Char} {char : Char}
    (h : pairEscape high cs = .ok (char, after)) :
    ∃ glyphs, (∀ g ∈ glyphs, g.IsValid) ∧ cs = written glyphs ++ after := by
  unfold pairEscape at h
  split at h
  · split_ifs at h
    · obtain ⟨-, rfl⟩ : _ ∧ _ = after := by simpa using h
      exact ⟨[], by simp, rfl⟩
    · split at h
      · simp at h
      · rename_i low rest hfour
        obtain ⟨digits, rfl, hlength, hdigits, rfl⟩ := exists_of_hexFour? hfour
        split_ifs at h
        · obtain ⟨-, rfl⟩ : _ ∧ _ = after := by simpa using h
          exact ⟨[code digits], by simpa [IsValid] using ⟨hlength, hdigits⟩, by simp [chars]⟩
        · obtain ⟨-, rfl⟩ : _ ∧ _ = after := by simpa using h
          exact ⟨[], by simp, rfl⟩
  · obtain ⟨-, rfl⟩ : _ ∧ _ = after := by simpa using h
    exact ⟨[], by simp, rfl⟩

theorem exists_of_unicodeEscape {cs after : List Char} {value : Nat}
    (h : unicodeEscape cs = .ok (value, after)) :
    ∃ digits, cs = digits ++ after ∧ (code digits).IsValid ∧ hexValue digits = value := by
  unfold unicodeEscape at h
  split at h
  · rename_i hfour
    split_ifs at h
    obtain ⟨rfl, rfl⟩ : _ ∧ _ := by simpa using h
    obtain ⟨digits, hcs, hlength, hdigits, hvalue⟩ := exists_of_hexFour? hfour
    exact ⟨digits, hcs, ⟨hlength, hdigits⟩, hvalue⟩
  · simp at h

section step

variable {opening fuel : Nat} {read cs rest : List Char} {result : String}

/-- What stands behind a backslash and the letter `u` is a code, with another one behind it if both make up
a pair. -/
theorem exists_of_scanString_code
    (h : scanString opening (fuel + 1) read ('\\' :: 'u' :: cs) = .ok (result, rest)) :
    ∃ glyphs read more, (∀ g ∈ glyphs, g.IsValid) ∧ '\\' :: 'u' :: cs = written glyphs ++ more ∧
      scanString opening fuel read more = .ok (result, rest) := by
  obtain ⟨⟨value, after⟩, hescape, hread⟩ := exists_of_bind_eq_ok h
  obtain ⟨digits, rfl, hdigits, rfl⟩ := exists_of_unicodeEscape hescape
  dsimp only at hread
  split_ifs at hread
  · obtain ⟨⟨char, more⟩, hpair, hmore⟩ := exists_of_bind_eq_ok hread
    obtain ⟨glyphs, hglyphs, rfl⟩ := exists_of_pairEscape hpair
    exact ⟨code digits :: glyphs, _, more, List.forall_mem_cons.mpr ⟨hdigits, hglyphs⟩,
      by simp [chars], hmore⟩
  · exact ⟨[code digits], _, after, List.forall_mem_singleton.mpr hdigits, by simp [chars], hread⟩
  · exact ⟨[code digits], _, after, List.forall_mem_singleton.mpr hdigits, by simp [chars], hread⟩

/-- One step reads the closing quote, or some glyphs. -/
theorem scanString_cases (h : scanString opening (fuel + 1) read cs = .ok (result, rest)) :
    cs = '"' :: rest ∨ ∃ glyphs read more, (∀ g ∈ glyphs, g.IsValid) ∧ cs = written glyphs ++ more ∧
      scanString opening fuel read more = .ok (result, rest) := by
  cases cs with
  | nil => simp [scanString] at h
  | cons c cs =>
    have hread := h
    unfold scanString at hread
    -- the quote that closes, an escape, or a character that stands for itself
    split_ifs at hread with hquote hslash hcontrol
    · obtain ⟨-, rfl⟩ := Prod.mk.inj (Except.ok.inj hread)
      exact .inl (by rw [hquote])
    · subst hslash
      split at hread
      · simp at hread
      · exact .inr (exists_of_scanString_code h)
      · rename_i e more hu
        split at hread
        · rename_i char hchar
          exact .inr ⟨[short e], _, more, by simp [IsValid, hchar], by simp [chars], hread⟩
        · simp at hread
    · exact .inr ⟨[plain c], _, cs, by simpa [IsValid] using ⟨hquote, hslash, Nat.lt_of_not_le hcontrol⟩,
        by simp [chars], hread⟩

/-- What the reader of strings has read is a row of glyphs with a quote after it. -/
theorem exists_of_scanString (h : scanString opening fuel read cs = .ok (result, rest)) :
    ∃ glyphs, (∀ g ∈ glyphs, g.IsValid) ∧ cs = written glyphs ++ '"' :: rest := by
  induction fuel generalizing read cs with
  | zero => simp [scanString] at h
  | succ fuel ih =>
    rcases scanString_cases h with rfl | ⟨glyphs, read, more, hglyphs, rfl, hread⟩
    · exact ⟨[], by simp, rfl⟩
    · obtain ⟨others, hothers, rfl⟩ := ih hread
      exact ⟨glyphs ++ others, List.forall_mem_append.mpr ⟨hglyphs, hothers⟩, by simp [written]⟩

end step

end Glyph

end Json

end ProposalCheck

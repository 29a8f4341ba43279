import ProposalCheck.Proofs.Json.Literal
import ProposalCheck.Yaml.Lexeme

/-!
# Strings of a JSON text read as YAML

The glyphs between two quotes are a scalar in double quotes. YAML closes it at the same quote, but may
read another text: some characters of JSON strings break lines in YAML, and surrogates are not paired.
What is read depends on the glyphs alone.

## Main definitions

* `Cursor.IsAt`: a cursor stands in front of glyphs and a closing quote
* `ReadsAlike`: what is read in a string is decided by its glyphs
* `nameOf?`: the text that YAML reads in a string

## Main results

* `readsAlike`: every string is read as its glyphs say
* `quotedScalar_of_isAt`: a string is read up to its closing quote, as the text that `nameOf?` says
-/

namespace ProposalCheck.Yaml

open Json (Glyph)

namespace Cursor

theorem next_eq_skip (cursor : Cursor) : cursor.next = cursor.skip 1 := rfl

theorem skip_add (m n : Nat) (cursor : Cursor) : cursor.skip (m + n) = (cursor.skip m).skip n := by
  induction m generalizing cursor with
  | zero => simp [skip]
  | succ m ih => rw [Nat.succ_add, skip, skip, ih]

theorem rest_next (cursor : Cursor) : cursor.next.rest = cursor.rest.tail := by
  unfold next
  cases h : cursor.rest <;> simp [h]

@[simp] theorem rest_skip (n : Nat) (cursor : Cursor) : (cursor.skip n).rest = cursor.rest.drop n := by
  induction n generalizing cursor with
  | zero => rfl
  | succ n ih => rw [skip, ih, rest_next, List.drop_tail]

/-- A cursor stands in front of glyphs and a closing quote. -/
def IsAt (cursor : Cursor) (glyphs : List Glyph) : Prop :=
  ∃ rest, cursor.rest = Glyph.written glyphs ++ '"' :: rest

variable {cursor : Cursor} {glyphs : List Glyph}

theorem IsAt.skip {blanks : List Char} {others : List Glyph} (h : cursor.IsAt glyphs)
    (hwritten : Glyph.written glyphs = blanks ++ Glyph.written others) :
    (cursor.skip blanks.length).IsAt others := by
  obtain ⟨rest, hrest⟩ := h
  exact ⟨rest, by simp [hrest, hwritten]⟩

theorem IsAt.skip_one {c : Char} (h : cursor.IsAt (.plain c :: glyphs)) : (cursor.skip 1).IsAt glyphs :=
  @IsAt.skip cursor (.plain c :: glyphs) [c] glyphs h rfl

theorem exists_isAt (glyphs : List Glyph) : ∃ cursor : Cursor, cursor.IsAt glyphs :=
  ⟨⟨Glyph.written glyphs ++ ['"'], {}⟩, [], rfl⟩

theorem IsAt.length_lt (h : cursor.IsAt glyphs) : glyphs.length < cursor.rest.length := by
  obtain ⟨rest, hrest⟩ := h
  have := Glyph.length_le_written glyphs
  rw [hrest]
  simp only [List.length_append, List.length_cons]
  omega

/-- Whether a mark between documents stands at a cursor is decided by the glyphs. -/
theorem exists_isAtSeparator (glyphs : List Glyph) :
    ∃ isAt : Bool, ∀ cursor : Cursor, cursor.IsAt glyphs → cursor.isAtSeparator = isAt := by
  refine ⟨(⟨Glyph.written glyphs ++ ['"'], {}⟩ : Cursor).isAtSeparator, ?_⟩
  rintro cursor ⟨rest, hrest⟩
  -- a quote among the first four characters is neither in the mark nor behind it
  match hwritten : Glyph.written glyphs with
  | [] | [_] | [_, _] | [_, _, _] | _ :: _ :: _ :: _ :: _ =>
    simp [isAtSeparator, isAtMark, peekAt, hrest, hwritten]

/-- Blanks in front of a cursor are glyphs. -/
theorem exists_blanks (hvalid : ∀ g ∈ glyphs, g.IsValid) :
    ∃ blanks others, (∀ g ∈ others, g.IsValid) ∧ glyphs.length = blanks.length + others.length ∧
      Glyph.written glyphs = blanks ++ Glyph.written others ∧
      ∀ cursor : Cursor, cursor.IsAt glyphs → cursor.takeWhile isSpaceOrTab = blanks := by
  induction glyphs with
  | nil => exact ⟨[], [], by simp, rfl, rfl, fun cursor ⟨rest, hrest⟩ => by simp [takeWhile, hrest, isSpaceOrTab]⟩
  | cons glyph glyphs ih =>
    -- where no blank comes first, the blanks are none and all glyphs are left
    have hstop : (∀ rest, (Glyph.written (glyph :: glyphs) ++ '"' :: rest).takeWhile isSpaceOrTab = []) →
        ∃ blanks others, (∀ g ∈ others, g.IsValid) ∧
          (glyph :: glyphs).length = blanks.length + others.length ∧
          Glyph.written (glyph :: glyphs) = blanks ++ Glyph.written others ∧
          ∀ cursor : Cursor, cursor.IsAt (glyph :: glyphs) → cursor.takeWhile isSpaceOrTab = blanks :=
      fun h => ⟨[], glyph :: glyphs, hvalid, by simp, rfl, fun cursor ⟨rest, hrest⟩ => by
        rw [takeWhile, hrest, h]⟩
    cases glyph with
    | plain c =>
      by_cases hc : isSpaceOrTab c
      · obtain ⟨blanks, others, hothers, hlength, hwritten, hread⟩ :=
          ih fun g hg => hvalid g (List.mem_cons_of_mem _ hg)
        refine ⟨c :: blanks, others, hothers, by simp [hlength]; omega, by simp [hwritten, Glyph.chars], ?_⟩
        rintro cursor ⟨rest, hrest⟩
        have hmore := hread ⟨Glyph.written glyphs ++ '"' :: rest, {}⟩ ⟨rest, rfl⟩
        simp only [takeWhile] at hmore
        simp [takeWhile, hrest, Glyph.chars, hc, hmore]
      · exact hstop fun rest => by simp [Glyph.chars, hc]
    | short | code => exact hstop fun rest => by simp [Glyph.chars, isSpaceOrTab]

/-- What the end of a line counts as. -/
def breakChar (c : Char) : Char := if c = '\u2028' || c = '\u2029' then c else '\n'

theorem lineBreak?_cons {c : Char} {rest : List Char} (hreturn : c ≠ '\r') (hrest : cursor.rest = c :: rest) :
    cursor.lineBreak? = if isBreak c then some (breakChar c, cursor.skip 1) else none := by
  by_cases hseparator : c = '\u2028' ∨ c = '\u2029'
  · rcases hseparator with rfl | rfl <;> simp [lineBreak?, hrest, isBreak, isLineEnd, breakChar, next_eq_skip]
  · simp [lineBreak?, hrest, hreturn, hseparator, breakChar, next_eq_skip]

/-- A line feed behind a carriage return belongs to it. -/
theorem lineBreak?_return {rest : List Char} (hrest : cursor.rest = '\r' :: rest) :
    cursor.lineBreak? = some ('\n', cursor.skip (if rest.head? = some '\n' then 2 else 1)) := by
  cases rest with
  | nil => simp [lineBreak?, hrest, isBreak, isLineEnd, next_eq_skip]
  | cons d rest =>
    by_cases hd : d = '\n' <;> simp [lineBreak?, hrest, hd, isBreak, isLineEnd, next_eq_skip]

/-- Glyphs hold no carriage return. -/
theorem ne_return_of_isValid {c : Char} (h : (Glyph.plain c).IsValid) : c ≠ '\r' := by
  rintro rfl
  simpa using h.2.2

/-- Whether a line end stands at a cursor is decided by the glyphs; it is one glyph. -/
theorem lineBreak?_of_isAt (hvalid : ∀ g ∈ glyphs, g.IsValid) :
    (∀ cursor : Cursor, cursor.IsAt glyphs → cursor.lineBreak? = none) ∨
      ∃ c char others, glyphs = .plain c :: others ∧
        ∀ cursor : Cursor, cursor.IsAt glyphs → cursor.lineBreak? = some (char, cursor.skip 1) := by
  cases glyphs with
  | nil => exact .inl fun cursor ⟨rest, hrest⟩ => lineBreak?_cons (by decide) hrest
  | cons glyph glyphs =>
    cases glyph with
    | plain c =>
      have hreturn := ne_return_of_isValid (hvalid _ List.mem_cons_self)
      by_cases hbreak : isBreak c
      · refine .inr ⟨c, breakChar c, glyphs, rfl, ?_⟩
        rintro cursor ⟨rest, hrest⟩
        rw [lineBreak?_cons hreturn hrest, if_pos hbreak]
      · refine .inl ?_
        rintro cursor ⟨rest, hrest⟩
        rw [lineBreak?_cons hreturn hrest, if_neg hbreak]
    | short | code => exact .inl fun cursor ⟨rest, hrest⟩ => lineBreak?_cons (by decide) hrest

end Cursor

variable {glyphs : List Glyph}

/-- Where no mark between documents stands, blanks are passed, and further line ends if one follows. -/
theorem quotedBreaks_succ {cursor : Cursor} {blanks : List Char} (hseparator : cursor.isAtSeparator = false)
    (hblanks : cursor.takeWhile isSpaceOrTab = blanks) (fuel : Nat) :
    quotedBreaks (fuel + 1) cursor =
      (cursor.skip blanks.length).lineBreak?.elim (.ok ([], cursor.skip blanks.length)) fun found =>
        (quotedBreaks fuel found.2).map fun more => (found.1 :: more.1, more.2) := by
  simp only [quotedBreaks, hseparator, Bool.false_eq_true, if_false, Cursor.skipWhile, hblanks]
  cases (cursor.skip blanks.length).lineBreak? <;> rfl

/-- Line ends within a string are glyphs, and what they stand for is decided by the glyphs. -/
theorem exists_quotedBreaks (glyphs : List Glyph) (hvalid : ∀ g ∈ glyphs, g.IsValid) :
    ∃ (outcome : Except YamlProblem (List Char)) (passed : List Char) (others : List Glyph),
      (∀ g ∈ others, g.IsValid) ∧ others.length ≤ glyphs.length ∧
      Glyph.written glyphs = passed ++ Glyph.written others ∧
      ∀ fuel (cursor : Cursor), glyphs.length < fuel → cursor.IsAt glyphs →
        quotedBreaks fuel cursor = outcome.map fun breaks => (breaks, cursor.skip passed.length) := by
  induction hlength : glyphs.length using Nat.strongRecOn generalizing glyphs with
  | _ n ih =>
  subst hlength
  obtain ⟨isAt, hseparator⟩ := Cursor.exists_isAtSeparator glyphs
  cases isAt with
  | true =>
    refine ⟨.error .separatorInQuote, [], glyphs, hvalid, Nat.le_refl _, rfl, ?_⟩
    intro fuel cursor hfuel hat
    obtain ⟨fuel, rfl⟩ := Nat.exists_eq_add_of_lt hfuel
    simp [quotedBreaks, hseparator cursor hat, Except.map]
  | false =>
    obtain ⟨blanks, others, hothers, hcount, hwritten, hblanks⟩ := Cursor.exists_blanks hvalid
    have hread := fun fuel (cursor : Cursor) (hat : cursor.IsAt glyphs) =>
      quotedBreaks_succ (hseparator cursor hat) (hblanks cursor hat) fuel
    -- by strong induction on the number of glyphs: another line end leaves fewer of them
    rcases Cursor.lineBreak?_of_isAt hothers with hnone | ⟨c, char, last, rfl, hsome⟩
    · refine ⟨.ok [], blanks, others, hothers, by omega, hwritten, ?_⟩
      intro fuel cursor hfuel hat
      obtain ⟨fuel, rfl⟩ := Nat.exists_eq_add_of_lt hfuel
      rw [hread _ _ hat, hnone _ (hat.skip hwritten)]
      rfl
    · simp only [List.length_cons] at hcount
      have hlast : ∀ g ∈ last, g.IsValid := fun g hg => hothers g (List.mem_cons_of_mem _ hg)
      obtain ⟨outcome, passed, remaining, hremaining, hle, hpassed, hmore⟩ :=
        ih last.length (by omega) last hlast rfl
      refine ⟨outcome.map (char :: ·), blanks ++ c :: passed, remaining, hremaining, by omega,
        by simp [hwritten, Glyph.chars, hpassed], ?_⟩
      intro fuel cursor hfuel hat
      obtain ⟨fuel, rfl⟩ : ∃ k, fuel = k + 1 := ⟨fuel - 1, by omega⟩
      have hskip := hat.skip hwritten
      have hnext := hskip.skip_one
      rw [hread _ _ hat, hsome _ hskip]
      simp only [Option.elim_some, hmore fuel _ (by omega) hnext]
      cases outcome with
      | error problem => rfl
      | ok breaks =>
        simp only [Except.map, List.length_append, List.length_cons]
        rw [← Cursor.skip_add, ← Cursor.skip_add, Nat.add_comm 1]

/-- What has a meaning after a backslash in JSON has one in YAML. -/
theorem exists_escaped? {c char : Char} (h : Json.shortEscape? c = some char) :
    ∃ value, escaped? c = some value := by
  unfold Json.shortEscape? at h
  split at h
  all_goals first
    | exact ⟨_, rfl⟩
    | simp at h

/-- What a glyph with a backslash stands for. -/
theorem exists_escapeAt {glyph : Glyph} (hvalid : glyph.IsValid) (hplain : ∀ c, glyph ≠ .plain c) :
    ∃ text, ∀ (cursor : Cursor) rest, cursor.rest = glyph.chars ++ rest →
      escapeAt cursor.next = .ok (text, cursor.skip glyph.chars.length) := by
  cases glyph with
  | plain c => exact absurd rfl (hplain c)
  | short c =>
    obtain ⟨char, hchar⟩ := hvalid
    obtain ⟨value, hvalue⟩ := exists_escaped? hchar
    refine ⟨[value], fun cursor rest hrest => ?_⟩
    have hpeek : cursor.next.peek = c := by
      rw [Cursor.peek, Cursor.rest_next, hrest]
      rfl
    simp only [escapeAt, hpeek, hvalue]
    rfl
  | code digits =>
    obtain ⟨hlength, hdigits⟩ := hvalid
    refine ⟨[charOfCode (hexValue digits)], fun cursor rest hrest => ?_⟩
    have hpeek : cursor.next.peek = 'u' := by
      rw [Cursor.peek, Cursor.rest_next, hrest]
      rfl
    -- the mark `u` stands for no character itself but takes four digits
    have hescaped : escaped? 'u' = none := rfl
    have hcount : escapeDigits? 'u' = some 4 := rfl
    have htake : cursor.next.next.rest.take 4 = digits := by
      rw [Cursor.rest_next, Cursor.rest_next, hrest]
      simp [Glyph.chars, hlength]
    have hall : digits.all (fun d => (hexDigit? d).isSome) := List.all_eq_true.mpr hdigits
    simp only [escapeAt, hpeek, hescaped, hcount, htake, hlength, hall, and_self, if_true, Glyph.chars,
      List.length_cons]
    rfl

/-- What is read between the quotes is decided by the glyphs alone: wherever they stand, the same text is
read up to the closing quote, or the same problem is met. -/
def ReadsAlike (glyphs : List Glyph) : Prop :=
  ∃ outcome : Except YamlProblem (List Char), ∀ fuel (cursor : Cursor), glyphs.length < fuel →
    cursor.IsAt glyphs → quotedText '"' fuel cursor =
      outcome.map fun text => (text, cursor.skip ((Glyph.written glyphs).length + 1))

/-- A step that reads some text of a string leaves fewer glyphs, on which the rest depends. -/
theorem ReadsAlike.of_step {glyphs others : List Glyph} (piece : Except YamlProblem (List Char))
    (passed : List Char) (hlt : others.length < glyphs.length)
    (hwritten : Glyph.written glyphs = passed ++ Glyph.written others)
    (hread : ∀ fuel (cursor : Cursor), cursor.IsAt glyphs → quotedText '"' (fuel + 1) cursor =
      piece.bind fun text => (quotedText '"' fuel (cursor.skip passed.length)).map
        fun (more, cursor) => (text ++ more, cursor))
    (hothers : ReadsAlike others) : ReadsAlike glyphs := by
  obtain ⟨outcome, hmore⟩ := hothers
  refine ⟨piece.bind fun text => outcome.map (text ++ ·), fun fuel cursor hfuel hat => ?_⟩
  obtain ⟨fuel, rfl⟩ : ∃ k, fuel = k + 1 := ⟨fuel - 1, by omega⟩
  rw [hread fuel cursor hat, hmore fuel _ (by omega) (hat.skip hwritten)]
  cases piece with
  | error problem => rfl
  | ok text =>
    cases outcome with
    | error problem => rfl
    | ok more =>
      simp only [Except.bind, Except.map, hwritten, List.length_append]
      rw [← Cursor.skip_add, Nat.add_assoc]

section blank

variable {c : Char} {blanks : List Char}

/-- Where a blank or a line end is next, all blanks are read, and then the line ends behind them. -/
theorem quotedText_blank (hquote : c ≠ '"') (hslash : c ≠ '\\') (hblank : isSpaceOrTab c || isBreak c)
    (fuel : Nat) {cursor : Cursor} (hat : cursor.IsAt (.plain c :: glyphs))
    (hspaces : cursor.takeWhile isSpaceOrTab = blanks) :
    quotedText '"' (fuel + 1) cursor =
      match (cursor.skip blanks.length).lineBreak? with
      | none => (quotedText '"' fuel (cursor.skip blanks.length)).map
          fun (more, cursor) => (blanks ++ more, cursor)
      | some (first, cursor) => (quotedBreaks cursor.rest.length cursor).bind
          fun (more, cursor) => (quotedText '"' fuel cursor).map
            fun (text, cursor) => (foldBreaks first more ++ text, cursor) := by
  obtain ⟨rest, hrest⟩ := hat
  rw [quotedText, hrest]
  simp only [Glyph.written_cons, Glyph.chars, List.cons_append, List.nil_append, hquote, hslash,
    hblank, hspaces, Char.reduceEq, decide_false, decide_true, Bool.and_false, Bool.and_true,
    Bool.false_and, Bool.false_eq_true, if_false, if_true]
  rfl

/-- If a blank or a line end is next, but no line ends behind the blanks, then there are blanks. -/
theorem ne_nil_of_lineBreak?_eq_none (hreturn : c ≠ '\r') (hblank : isSpaceOrTab c || isBreak c)
    {cursor : Cursor} (hat : cursor.IsAt (.plain c :: glyphs))
    (hspaces : cursor.takeWhile isSpaceOrTab = blanks)
    (hnone : (cursor.skip blanks.length).lineBreak? = none) : blanks ≠ [] := by
  rintro rfl
  obtain ⟨rest, hrest⟩ := hat
  have hspace : isSpaceOrTab c = false := by
    rw [Cursor.takeWhile, hrest] at hspaces
    by_contra hc
    rw [Bool.not_eq_false] at hc
    simp [Glyph.chars, hc] at hspaces
  rw [hspace, Bool.false_or] at hblank
  rw [List.length_nil, Cursor.skip, Cursor.lineBreak?_cons hreturn hrest, if_pos hblank] at hnone
  simp at hnone

/-- Blanks and line ends are read alike if what is left behind them is. -/
theorem ReadsAlike.of_blank (hvalid : ∀ g ∈ Glyph.plain c :: glyphs, g.IsValid)
    (hblank : isSpaceOrTab c || isBreak c)
    (hfewer : ∀ others : List Glyph, others.length < (Glyph.plain c :: glyphs).length →
      (∀ g ∈ others, g.IsValid) → ReadsAlike others) :
    ReadsAlike (.plain c :: glyphs) := by
  have hc := hvalid _ List.mem_cons_self
  obtain ⟨blanks, others, hothers, hcount, hwritten, hblanks⟩ := Cursor.exists_blanks hvalid
  have hread := fun fuel (cursor : Cursor) (hat : cursor.IsAt (.plain c :: glyphs)) =>
    quotedText_blank hc.1 hc.2.1 hblank fuel hat (hblanks cursor hat)
  rcases Cursor.lineBreak?_of_isAt hothers with hnone | ⟨c', char, last, rfl, hsome⟩
  · -- no line ends, so the blanks are what a step reads
    obtain ⟨start, hstart⟩ := Cursor.exists_isAt (.plain c :: glyphs)
    have hpos := List.length_pos_iff.mpr (ne_nil_of_lineBreak?_eq_none (Cursor.ne_return_of_isValid hc)
      hblank hstart (hblanks start hstart) (hnone _ (hstart.skip hwritten)))
    have hlt : others.length < (Glyph.plain c :: glyphs).length := by omega
    refine .of_step (.ok blanks) blanks hlt hwritten (fun fuel cursor hat => ?_) (hfewer _ hlt hothers)
    rw [hread fuel cursor hat, hnone _ (hat.skip hwritten)]
    rfl
  · -- the blanks and all line ends are what a step reads
    have hlast : ∀ g ∈ last, g.IsValid := fun g hg => hothers g (List.mem_cons_of_mem _ hg)
    obtain ⟨breaks, passed, remaining, hremaining, hle, hpassed, hmore⟩ := exists_quotedBreaks last hlast
    have hlt : remaining.length < (Glyph.plain c :: glyphs).length := by
      simp only [List.length_cons] at hcount ⊢
      omega
    refine .of_step (breaks.map (foldBreaks char)) (blanks ++ c' :: passed) hlt
      (by simp [hwritten, Glyph.chars, hpassed]) (fun fuel cursor hat => ?_)
      (hfewer _ hlt hremaining)
    have hskip := hat.skip hwritten
    have hnext := hskip.skip_one
    rw [hread fuel cursor hat, hsome _ hskip]
    simp only [hmore _ _ hnext.length_lt hnext]
    cases breaks with
    | error problem => rfl
    | ok breaks =>
      simp only [Except.map, Except.bind, List.length_append, List.length_cons]
      rw [← Cursor.skip_add, ← Cursor.skip_add, Nat.add_comm 1]

end blank

/-- A string is read up to its closing quote, and what it stands for is decided by the glyphs. -/
theorem readsAlike (glyphs : List Glyph) (hvalid : ∀ g ∈ glyphs, g.IsValid) : ReadsAlike glyphs := by
  induction hlength : glyphs.length using Nat.strongRecOn generalizing glyphs with
  | _ n ih =>
  subst hlength
  -- in each case a step reads some text and leaves glyphs that the induction hypothesis covers
  cases glyphs with
  | nil =>
    refine ⟨.ok [], fun fuel cursor hfuel hat => ?_⟩
    obtain ⟨rest, hrest⟩ := hat
    obtain ⟨fuel, rfl⟩ := Nat.exists_eq_add_of_lt hfuel
    simp [quotedText, hrest, Except.map, Cursor.next_eq_skip]
  | cons glyph glyphs =>
    have htail := ih _ (Nat.lt_succ_self glyphs.length) glyphs
      (fun g hg => hvalid g (List.mem_cons_of_mem _ hg)) rfl
    cases hglyph : glyph with
    | short | code =>
      obtain ⟨text, htext⟩ := exists_escapeAt (hvalid glyph List.mem_cons_self) (by simp [hglyph])
      subst hglyph
      refine .of_step (.ok text) _ (Nat.lt_succ_self _) (Glyph.written_cons _ _) ?_ htail
      rintro fuel cursor ⟨rest, hrest⟩
      rw [Glyph.written_cons, List.append_assoc] at hrest
      have hescape := htext cursor _ hrest
      rw [quotedText, hrest]
      simp [Glyph.chars, hescape, bind, Except.bind]
    | plain c =>
      subst hglyph
      by_cases hblank : isSpaceOrTab c || isBreak c
      · exact .of_blank hvalid hblank fun others hlt hothers => ih _ hlt others hothers rfl
      · obtain ⟨hquote, hslash, -⟩ := hvalid _ List.mem_cons_self
        refine .of_step (.ok [c]) [c] (Nat.lt_succ_self _) rfl ?_ htail
        rintro fuel cursor ⟨rest, hrest⟩
        rw [quotedText, hrest]
        simp [Glyph.chars, hquote, hslash, hblank, Except.bind, Cursor.next_eq_skip]

/-- The text that YAML reads in a string; `none` if it refuses the string. -/
def nameOf? (name : List Glyph) : Option String :=
  match quotedScalar ⟨'"' :: (Glyph.written name ++ ['"']), {}⟩ with
  | .ok (text, _) => some text
  | .error _ => none

/-- A string is read up to its closing quote, whatever follows it. -/
theorem quotedScalar_of_isAt {name : List Glyph} (hvalid : ∀ g ∈ name, g.IsValid) {cursor after : Cursor}
    {rest : List Char} {text : String} (hrest : cursor.rest = '"' :: (Glyph.written name ++ '"' :: rest))
    (h : quotedScalar cursor = .ok (text, after)) :
    nameOf? name = some text ∧ after = cursor.skip ((Glyph.written name).length + 2) := by
  obtain ⟨outcome, hread⟩ := readsAlike name hvalid
  -- what is read depends on the name alone, so the name can be read by itself just as well
  have hscalar : ∀ (cursor : Cursor) rest, cursor.rest = '"' :: (Glyph.written name ++ '"' :: rest) →
      quotedScalar cursor = outcome.map fun text =>
        (String.ofList text, cursor.skip ((Glyph.written name).length + 2)) := by
    intro cursor rest hrest
    have hat : cursor.next.IsAt name := ⟨rest, by rw [Cursor.rest_next, hrest]; rfl⟩
    have hlt := hat.length_lt
    rw [Cursor.rest_next, List.length_tail] at hlt
    have hpeek : cursor.peek = '"' := by simp [Cursor.peek, hrest]
    rw [quotedScalar, hpeek, hread _ _ (by omega) hat]
    cases outcome <;> rfl
  rw [hscalar cursor rest hrest] at h
  cases outcome with
  | error problem => simp [Except.map] at h
  | ok chars =>
    obtain ⟨rfl, rfl⟩ := Prod.mk.inj (Except.ok.inj h)
    refine ⟨?_, rfl⟩
    rw [nameOf?, hscalar _ [] rfl]
    rfl

end ProposalCheck.Yaml

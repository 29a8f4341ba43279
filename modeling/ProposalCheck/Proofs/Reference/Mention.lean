import Mathlib.Data.List.TakeWhile
import ProposalCheck.Proofs.Reference.Word

/-!
# Mentions and what is between them

A mention starts at a word edge with its word, which has a letter. So whatever comes before it neither goes on into the
word nor takes digits from its front: a match that reaches a mention ends there or fails. This is so for the canonical
form of the mention, too. Therefore a text in which mentions are written in another way has its mentions in the same
places between the same characters.

## Main definitions

* `IsMention`: word, separators and digits of a mention
* `Alike`: two texts that are the same but for what comes after the start of a word
* `Piece`, `Scans`: a text as it is read: mentions, and characters at which there is none
* `Piece.restated`: a mention in its canonical form

## Main results

* `mentionAt?_eq_some_iff`: what is found at the front of a text
* `exists_scans`: every text can be read
* `Scans.mentionsFrom_eq`: the mentions that are found are those that are read
* `Scans.restated`: a text with its mentions in canonical form is read alike
-/

namespace ProposalCheck

variable {before before' : Option Char} {word front separators digits rest cs ds : List Char} {c : Char}

/-! ### Characters around a mention -/

/-- Is there a character, and is it a word character? -/
def isWordAt (c : Option Char) : Bool := (c.map isWordChar).getD false

theorem isWordChar_of_isDigit (h : c.isDigit) : isWordChar c = true := by
  have hlt := (toNat_of_isDigit h).2
  rw [isWordChar, if_pos (by omega), Char.isAlphanum, h, Bool.or_true, Bool.true_or]

theorem isSeparator_of_isDigit (h : c.isDigit) : isSeparator c = false := by
  have halphanum : c.isAlphanum := by rw [Char.isAlphanum, h, Bool.or_true]
  have hseparator := (cases_ofNat c.toNat (lt_of_isAlphanum halphanum).2).2.1
  rw [Char.ofNat_toNat] at hseparator
  exact hseparator halphanum

/-- Digits end with a word character. -/
theorem isWordAt_getLast? (h : ∀ c ∈ digits, c.isDigit) (hne : digits ≠ []) : isWordAt digits.getLast? = true := by
  rw [List.getLast?_eq_some_getLast hne]
  exact isWordChar_of_isDigit (h _ (List.getLast_mem hne))

/-- A word that starts a text. -/
def StartsWord (cs : List Char) : Prop := ∃ front rest, cs = front ++ rest ∧ IsWord front

theorem IsWord.ne_nil (h : IsWord front) : front ≠ [] := by
  rintro rfl
  obtain ⟨c, hc, -⟩ := h.letter
  cases hc

theorem StartsWord.head (h : StartsWord (c :: cs)) : isWordChar c = true ∧ isSeparator c = false := by
  obtain ⟨front, rest, heq, hfront⟩ := h
  cases front with
  | nil => exact absurd rfl hfront.ne_nil
  | cons d front =>
    obtain ⟨rfl, -⟩ := List.cons.inj heq
    exact ⟨hfront.isWordChar _ List.mem_cons_self, hfront.isSeparator _ List.mem_cons_self⟩

theorem StartsWord.isWordAt_head (h : StartsWord cs) : isWordAt cs.head? = true := by
  cases cs with
  | nil =>
    obtain ⟨front, rest, heq, hfront⟩ := h
    exact absurd (List.append_eq_nil_iff.mp heq.symm).1 hfront.ne_nil
  | cons c cs => exact h.head.1

/-- After digits at its front a word goes on. -/
theorem StartsWord.isWordAt_of_digits (h : StartsWord (digits ++ rest)) (hdigits : ∀ c ∈ digits, c.isDigit) :
    isWordAt rest.head? = true := by
  obtain ⟨front, others, heq, hfront⟩ := h
  obtain ⟨letter, hmem, hletter⟩ := hfront.letter
  rcases List.append_eq_append_iff.mp heq with ⟨more, rfl, rfl⟩ | ⟨more, rfl, -⟩
  · cases more with
    | nil =>
      rw [List.append_nil] at hmem
      rw [hdigits letter hmem] at hletter
      cases hletter
    | cons c more => exact hfront.isWordChar c (by simp)
  · rw [hdigits letter (List.mem_append_left _ hmem)] at hletter
    cases hletter

/-! ### One mention -/

/-- A mention is the word, whatever the case, then perhaps separators, and digits. -/
structure IsMention (word front separators digits : List Char) : Prop where
  front : EqualIgnoringCase word front
  separators : ∀ c ∈ separators, isSeparator c
  digits_ne : digits ≠ []
  digits : ∀ c ∈ digits, c.isDigit

theorem isWordEdge_iff {after : Option Char} : isWordEdge before after ↔ isWordAt before ≠ isWordAt after := by
  rw [isWordEdge, bne_iff_ne]
  rfl

/-- What follows the word in a mention is found by going through it. -/
theorem IsMention.scan (h : IsMention word front separators digits) (hrest : isWordAt rest.head? = false) :
    (separators ++ (digits ++ rest)).dropWhile isSeparator = digits ++ rest ∧
      (digits ++ rest).takeWhile Char.isDigit = digits := by
  constructor
  · rw [List.dropWhile_append_of_pos h.separators]
    -- a digit is no separator
    cases digits with
    | nil => exact absurd rfl h.digits_ne
    | cons d digits =>
      have hd := isSeparator_of_isDigit (h.digits d List.mem_cons_self)
      rw [List.cons_append, List.dropWhile_cons_of_neg (by rw [hd]; exact Bool.false_ne_true)]
  · rw [List.takeWhile_append_of_pos h.digits]
    -- a digit would be a character of the word, but a word ends here
    cases rest with
    | nil => rw [List.takeWhile_nil, List.append_nil]
    | cons c rest =>
      have hc : ¬c.isDigit := fun hdigit => by
        have hword : isWordAt (some c) = true := isWordChar_of_isDigit hdigit
        rw [List.head?_cons, hword] at hrest
        cases hrest
      rw [List.takeWhile_cons_of_neg hc, List.append_nil]

/-- A mention at the front of a text starts at a word edge and ends before one. -/
theorem mentionAt?_eq_some_iff {length : Nat} : mentionAt? before cs word = some (length, digits) ↔
    isWordAt before ≠ isWordAt cs.head? ∧ ∃ front separators rest, cs = front ++ (separators ++ (digits ++ rest)) ∧
      IsMention word front separators digits ∧ isWordAt rest.head? = false ∧
      length = front.length + (separators.length + digits.length) := by
  constructor
  · intro h
    rw [mentionAt?] at h
    split_ifs at h with hedge
    rw [Bool.not_eq_true', Bool.not_eq_false, isWordEdge_iff] at hedge
    refine ⟨hedge, ?_⟩
    split at h
    · cases h
    · rename_i after hafter
      obtain ⟨front, rfl, hfront⟩ := dropIgnoringCase?_eq_some_iff.mp hafter
      dsimp only at h
      split_ifs at h with hends
      obtain ⟨hlength, rfl⟩ := Prod.mk.inj (Option.some.inj h)
      rw [Bool.or_eq_true, not_or, List.isEmpty_iff, Bool.not_eq_true] at hends
      -- what follows the word is the separators, the digits, and what the digits end before
      have hdigits := List.prefix_iff_eq_append.mp
        (List.takeWhile_prefix Char.isDigit : _ <+: after.dropWhile isSeparator)
      have hsplit : after = after.takeWhile isSeparator ++ _ := (hdigits ▸ List.takeWhile_append_dropWhile).symm
      refine ⟨front, _, _, congrArg _ hsplit, ⟨hfront, fun c hc => List.mem_takeWhile_imp hc, hends.1,
        fun c hc => List.mem_takeWhile_imp hc⟩, hends.2, ?_⟩
      have htotal := congrArg List.length hsplit
      simp only [List.length_append] at htotal hlength
      omega
  · rintro ⟨hedge, front, separators, rest, rfl, hmention, hrest, rfl⟩
    obtain ⟨hdrop, htake⟩ := hmention.scan hrest
    have hword : dropIgnoringCase? word (front ++ (separators ++ (digits ++ rest))) = some _ :=
      dropIgnoringCase?_eq_some_iff.mpr ⟨front, rfl, hmention.front⟩
    rw [mentionAt?, if_neg (by simpa [isWordEdge_iff] using hedge), hword]
    dsimp only
    rw [hdrop, htake, List.drop_left, if_neg]
    · simp only [List.length_append, Option.some.injEq, Prod.mk.injEq, and_true]
      omega
    · rw [Bool.or_eq_true, not_or, List.isEmpty_iff, Bool.not_eq_true]
      exact ⟨hmention.digits_ne, hrest⟩

/-- What is found depends on the character before the text only by whether it is a word character. -/
theorem mentionAt?_congr (h : isWordAt before' = isWordAt before) :
    mentionAt? before' cs word = mentionAt? before cs word := by
  have hedge : isWordEdge before' cs.head? = isWordEdge before cs.head? := congrArg (· != isWordAt cs.head?) h
  rw [mentionAt?, mentionAt?, hedge]

/-! ### Texts with other words -/

/-- Two texts are the same up to the end of both, or up to a place where a word starts in both. `before` is the
character before them. -/
inductive Alike : Option Char → List Char → List Char → Prop
  | nil {before : Option Char} : Alike before [] []
  | cons {before : Option Char} {c : Char} {cs ds : List Char} (h : Alike (some c) cs ds) :
      Alike before (c :: cs) (c :: ds)
  | word {before : Option Char} {cs ds : List Char} (hbefore : isWordAt before = false) (hcs : StartsWord cs)
      (hds : StartsWord ds) : Alike before cs ds

/-- Within a word no other one starts. -/
theorem Alike.exists_of_word (h : Alike before cs (front ++ ds)) (hbefore : isWordAt before = true)
    (hfront : ∀ c ∈ front, isWordChar c = true) :
    ∃ rest last, cs = front ++ rest ∧ Alike last rest ds := by
  induction front generalizing before cs with
  | nil => exact ⟨cs, before, rfl, h⟩
  | cons c front ih =>
    obtain ⟨hc, hfront⟩ := List.forall_mem_cons.mp hfront
    rw [List.cons_append] at h
    cases h with
    | cons h =>
      obtain ⟨rest, last, rfl, hrest⟩ := ih h hc hfront
      exact ⟨rest, last, rfl, hrest⟩
    | word hnone => rw [hbefore] at hnone; cases hnone

/-- No word starts with a separator. -/
theorem Alike.exists_of_separators (h : Alike before cs (separators ++ ds))
    (hseparators : ∀ c ∈ separators, isSeparator c) :
    ∃ rest last, cs = separators ++ rest ∧ Alike last rest ds := by
  induction separators generalizing before cs with
  | nil => exact ⟨cs, before, rfl, h⟩
  | cons c separators ih =>
    obtain ⟨hc, hseparators⟩ := List.forall_mem_cons.mp hseparators
    rw [List.cons_append] at h
    cases h with
    | cons h =>
      obtain ⟨rest, last, rfl, hrest⟩ := ih h hseparators
      exact ⟨rest, last, rfl, hrest⟩
    | word _ _ hds => rw [hds.head.2] at hc; cases hc

/-- Digits before the end of a word are not the front of another one. -/
theorem Alike.exists_of_digits (h : Alike before cs (digits ++ ds)) (hdigits : ∀ c ∈ digits, c.isDigit)
    (hne : digits ≠ []) (hds : isWordAt ds.head? = false) :
    ∃ rest last, cs = digits ++ rest ∧ Alike last rest ds := by
  cases digits with
  | nil => exact absurd rfl hne
  | cons c digits =>
    rw [List.cons_append] at h
    have hword : ∀ d ∈ c :: digits, isWordChar d = true := fun d hd => isWordChar_of_isDigit (hdigits d hd)
    obtain ⟨hc, hword⟩ := List.forall_mem_cons.mp hword
    cases h with
    | cons h =>
      obtain ⟨rest, last, rfl, hrest⟩ := h.exists_of_word hc hword
      exact ⟨rest, last, rfl, hrest⟩
    | word _ _ hstarts =>
      rw [← List.cons_append] at hstarts
      rw [hstarts.isWordAt_of_digits hdigits] at hds
      cases hds

/-- Two such texts both start with a word character or both do not. -/
theorem Alike.isWordAt_head (h : Alike before cs ds) : isWordAt cs.head? = isWordAt ds.head? := by
  cases h with
  | nil => rfl
  | cons => rfl
  | word _ hcs hds => rw [hcs.isWordAt_head, hds.isWordAt_head]

/-- A mention in one of two such texts is in the other. -/
theorem Alike.mentionAt?_eq {length : Nat} (h : Alike (some c) cs ds) (hword : ∀ c ∈ word, c.isAlphanum)
    (hletter : ∃ c ∈ word, c.isAlpha) (hfound : mentionAt? before (c :: ds) word = some (length, digits)) :
    mentionAt? before (c :: cs) word = some (length, digits) := by
  obtain ⟨hedge, front, separators, rest, heq, hmention, hrest, hlength⟩ := mentionAt?_eq_some_iff.mp hfound
  have hfront := hmention.front.isWord hword hletter
  refine mentionAt?_eq_some_iff.mpr ⟨hedge, ?_⟩
  cases front with
  | nil => exact absurd rfl hfront.ne_nil
  | cons d front =>
    obtain ⟨rfl, rfl⟩ := List.cons.inj heq
    obtain ⟨hc, hfront⟩ := List.forall_mem_cons.mp hfront.isWordChar
    obtain ⟨_, _, rfl, hseparators⟩ := h.exists_of_word hc hfront
    obtain ⟨_, _, rfl, hdigits⟩ := hseparators.exists_of_separators hmention.separators
    obtain ⟨after, _, rfl, hafter⟩ := hdigits.exists_of_digits hmention.digits hmention.digits_ne hrest
    exact ⟨c :: front, separators, after, rfl, hmention, hafter.isWordAt_head.trans hrest, hlength⟩

/-! ### Pieces of a text -/

/-- A character at which no mention starts, or a mention: its word, separators and digits. -/
inductive Piece where
  | char (c : Char)
  | mention (front separators digits : List Char)

namespace Piece

/-- The characters of a piece. -/
def text : Piece → List Char
  | .char c => [c]
  | .mention front separators digits => front ++ (separators ++ digits)

/-- The characters of pieces. -/
def texts (pieces : List Piece) : List Char := pieces.flatMap text

/-- The mentions among pieces, the first of which stands at a place. -/
def mentions (place : Nat) : List Piece → List Mention
  | [] => []
  | .char _ :: pieces => mentions (place + 1) pieces
  | .mention front separators digits :: pieces =>
    ⟨place, front ++ (separators ++ digits), digits⟩ ::
      mentions (place + (front ++ (separators ++ digits)).length) pieces

/-- A mention with other characters for its word, a hyphen and its number without zeros in front. -/
def restated (upper : List Char) : Piece → Piece
  | .char c => .char c
  | .mention _ _ digits => .mention upper ['-'] (Nat.toDigits 10 (numberOf digits))

end Piece

/-- A text is read as pieces. -/
inductive Scans (word : List Char) : Option Char → List Piece → Prop
  | nil {before : Option Char} : Scans word before []
  | char {before : Option Char} {c : Char} {pieces : List Piece}
      (hnone : mentionAt? before (c :: Piece.texts pieces) word = none) (hpieces : Scans word (some c) pieces) :
      Scans word before (.char c :: pieces)
  | mention {before : Option Char} {front separators digits : List Char} {pieces : List Piece}
      (hbefore : isWordAt before = false) (hmention : IsMention word front separators digits)
      (hafter : isWordAt (Piece.texts pieces).head? = false) (hpieces : Scans word digits.getLast? pieces) :
      Scans word before (.mention front separators digits :: pieces)

variable {pieces : List Piece}

/-- Every text is read as pieces. -/
theorem exists_scans (hword : ∀ c ∈ word, c.isAlphanum) (hletter : ∃ c ∈ word, c.isAlpha) (before : Option Char)
    (cs : List Char) : ∃ pieces, Piece.texts pieces = cs ∧ Scans word before pieces := by
  -- what is left to be read gets shorter with every piece
  induction hlength : cs.length using Nat.strongRecOn generalizing before cs with
  | _ length ih =>
    subst hlength
    cases cs with
    | nil => exact ⟨[], rfl, .nil⟩
    | cons c cs =>
      cases hfound : mentionAt? before (c :: cs) word with
      | none =>
        obtain ⟨pieces, rfl, hpieces⟩ := ih cs.length (by simp) (some c) cs rfl
        exact ⟨.char c :: pieces, rfl, .char hfound hpieces⟩
      | some found =>
        obtain ⟨length, digits⟩ := found
        obtain ⟨hedge, front, separators, rest, heq, hmention, hrest, -⟩ := mentionAt?_eq_some_iff.mp hfound
        have hfront := hmention.front.isWord hword hletter
        have hbefore : isWordAt before = false := by
          rw [heq, StartsWord.isWordAt_head ⟨front, _, rfl, hfront⟩] at hedge
          exact Bool.not_eq_true _ ▸ hedge
        have hshorter : rest.length < (c :: cs).length := by
          have := List.length_pos_iff.mpr hfront.ne_nil
          rw [heq]
          simp only [List.length_append]
          omega
        obtain ⟨pieces, rfl, hpieces⟩ := ih rest.length hshorter digits.getLast? rest rfl
        refine ⟨.mention front separators digits :: pieces, ?_, .mention hbefore hmention hrest hpieces⟩
        rw [heq, Piece.texts, List.flatMap_cons, Piece.text]
        simp only [List.append_assoc]
        rfl

/-- Characters that are skipped have no mentions. -/
theorem mentionsFrom_skip (words : List (List Char)) (place : Nat) (before : Option Char) (skipped cs : List Char) :
    mentionsFrom words skipped.length place before (skipped ++ cs) =
      mentionsFrom words 0 (place + skipped.length) (skipped.getLast?.or before) cs := by
  induction skipped generalizing place before with
  | nil => rfl
  | cons c skipped ih =>
    have hlast : (c :: skipped).getLast?.or before = skipped.getLast?.or (some c) := by
      rw [List.getLast?_cons]
      cases skipped.getLast? <;> rfl
    rw [hlast, List.length_cons, List.cons_append, mentionsFrom, ih, Nat.add_right_comm, Nat.add_assoc]

/-- The mentions in a text are those among its pieces. -/
theorem Scans.mentionsFrom_eq (h : Scans word before pieces) (hword : ∀ c ∈ word, c.isAlphanum)
    (hletter : ∃ c ∈ word, c.isAlpha) (place : Nat) :
    mentionsFrom [word] 0 place before (Piece.texts pieces) = Piece.mentions place pieces := by
  induction h generalizing place with
  | nil => rfl
  | @char before c pieces hnone _ ih =>
    have htexts : Piece.texts (.char c :: pieces) = c :: Piece.texts pieces := rfl
    rw [htexts, mentionsFrom]
    simp only [List.findSome?_cons, hnone, List.findSome?_nil]
    exact ih (place + 1)
  | @mention before front separators digits pieces hbefore hmention hafter _ ih =>
    have hfront := hmention.front.isWord hword hletter
    have htexts : Piece.texts (.mention front separators digits :: pieces) =
        (front ++ (separators ++ digits)) ++ Piece.texts pieces := rfl
    -- the front of a mention starts a word, and no word goes on before it
    have hfound : mentionAt? before (front ++ (separators ++ digits) ++ Piece.texts pieces) word =
        some ((front ++ (separators ++ digits)).length, digits) := by
      refine mentionAt?_eq_some_iff.mpr ⟨?_, front, separators, _, by simp, hmention, hafter, by simp⟩
      rw [hbefore, StartsWord.isWordAt_head ⟨front, _, List.append_assoc _ _ _, hfront⟩]
      exact Bool.false_ne_true
    have hlast : (front ++ (separators ++ digits)).getLast? = digits.getLast? := by
      rw [List.getLast?_append, List.getLast?_append, List.getLast?_eq_some_getLast hmention.digits_ne]
      rfl
    rw [htexts, Piece.mentions]
    obtain ⟨c, others, htext⟩ := List.exists_cons_of_ne_nil
      (List.append_ne_nil_of_left_ne_nil hfront.ne_nil (separators ++ digits))
    rw [htext] at hfound hlast ⊢
    rw [List.cons_append] at hfound ⊢
    rw [mentionsFrom]
    simp only [List.findSome?_cons, hfound]
    -- once the mention has been passed, the last of its digits is the character before
    have hothers : others.getLast?.or (some c) = digits.getLast? := by
      rw [← hlast, List.getLast?_cons]
      cases others.getLast? <;> rfl
    rw [List.length_cons, Nat.add_sub_cancel, mentionsFrom_skip, hothers, List.take_succ_cons, List.take_left,
      Nat.add_assoc place, Nat.add_comm 1, ih]

/-- A text and the one with its mentions restated are the same but for what comes after the start of a word. -/
theorem Scans.alike (h : Scans word before pieces) (hword : ∀ c ∈ word, c.isAlphanum)
    (hletter : ∃ c ∈ word, c.isAlpha) {upper : List Char} (hupper : EqualIgnoringCase word upper) :
    Alike before (Piece.texts pieces) (Piece.texts (pieces.map (Piece.restated upper))) := by
  induction h with
  | nil => exact .nil
  | char _ _ ih => exact .cons ih
  | mention hbefore hmention _ _ _ =>
    exact .word hbefore ⟨_, _, List.append_assoc _ _ _, hmention.front.isWord hword hletter⟩
      ⟨_, _, List.append_assoc _ _ _, hupper.isWord hword hletter⟩

theorem Scans.restated (h : Scans word before pieces) (hword : ∀ c ∈ word, c.isAlphanum)
    (hletter : ∃ c ∈ word, c.isAlpha) {upper : List Char} (hupper : EqualIgnoringCase word upper)
    (hbefore : isWordAt before' = isWordAt before) : Scans word before' (pieces.map (Piece.restated upper)) := by
  induction h generalizing before' with
  | nil => exact .nil
  | @char before c pieces hnone hpieces ih =>
    refine .char (Option.eq_none_iff_forall_ne_some.mpr fun found hfound => ?_) (ih rfl)
    have hsame := (hpieces.alike hword hletter hupper).mentionAt?_eq hword hletter hfound
    rw [mentionAt?_congr hbefore, hnone] at hsame
    cases hsame
  | @mention before front separators digits pieces hold hmention hafter hpieces ih =>
    have hdigits : ∀ c ∈ Nat.toDigits 10 (numberOf digits), c.isDigit := fun c hc =>
      Nat.isDigit_of_mem_toDigits (by decide) (by decide) hc
    refine .mention (hbefore.trans hold) ⟨hupper, ?_, Nat.toDigits_ne_nil, hdigits⟩ ?_ (ih ?_)
    · exact List.forall_mem_singleton.mpr (by decide)
    · rw [← (hpieces.alike hword hletter hupper).isWordAt_head]
      exact hafter
    · rw [isWordAt_getLast? hdigits Nat.toDigits_ne_nil, isWordAt_getLast? hmention.digits hmention.digits_ne]

/-! ### The canonical form -/

theorem numberOf_toDigits (n : Nat) : numberOf (Nat.toDigits 10 n) = n := by
  rw [numberOf, decimalNat?_toDigits, Option.getD_some]

theorem toList_canonicalReference (filePrefix : String) (n : Nat) : (canonicalReference filePrefix n).toList =
    (upperCase (String.ofList (referenceWord filePrefix))).toList ++ '-' :: Nat.toDigits 10 n := by
  rw [canonicalReference, String.toList_append, String.toList_append, List.append_assoc, Nat.toString_eq_repr,
    Nat.toList_repr]
  rfl

/-- Mentions name the same numbers in the same order when they are restated. -/
theorem map_number_restated (upper : List Char) (place place' : Nat) (pieces : List Piece) :
    (Piece.mentions place (pieces.map (Piece.restated upper))).map (·.number) =
      (Piece.mentions place' pieces).map (·.number) := by
  induction pieces generalizing place place' with
  | nil => rfl
  | cons piece pieces ih =>
    cases piece with
    | char c => exact ih _ _
    | mention front separators digits =>
      rw [List.map_cons, Piece.restated, Piece.mentions, Piece.mentions, List.map_cons, List.map_cons, ih]
      exact congrArg (· :: _) (numberOf_toDigits _)

/-- A mention that is restated has the canonical form of its number. -/
theorem text_of_mem_restated {filePrefix : String} {place : Nat} {mention : Mention}
    (h : mention ∈ Piece.mentions place
      (pieces.map (Piece.restated (upperCase (String.ofList (referenceWord filePrefix))).toList))) :
    mention.text = (canonicalReference filePrefix mention.number).toList := by
  induction pieces generalizing place with
  | nil => cases h
  | cons piece pieces ih =>
    cases piece with
    | char c => exact ih h
    | mention front separators digits =>
      rcases List.mem_cons.mp h with rfl | h
      · rw [toList_canonicalReference, Mention.number, numberOf_toDigits]
        rfl
      · exact ih h

end ProposalCheck

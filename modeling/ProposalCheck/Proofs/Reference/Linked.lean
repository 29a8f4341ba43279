import ProposalCheck.Proofs.Document.Spans
import ProposalCheck.Proofs.Text.Case
import ProposalCheck.Reference.Mention

/-!
# Destinations that name a proposal

A destination names a proposal if it is perhaps `./`, then a prefix, digits and a suffix, where case does not
count, and behind that nothing or a fragment. The digits may be followed by a suffix that starts with digits
itself, so as many of them are tried as there are.

## Main definitions

* `EqualIgnoringCase`: texts that are the same but for case
* `NamesProposal`: a destination names a proposal by the part before its fragment

## Main results

* `isSome_linkedDigits?_iff`: which destinations have the number of a proposal
* `NamesProposal.eq_takeWhile`: what stands before the fragment is what stands before the first `#`
-/

namespace ProposalCheck

variable {word cs ds suffix text : List Char}

/-! ### Texts without case -/

/-- Two texts are the same, where case does not count. -/
def EqualIgnoringCase (cs ds : List Char) : Prop := List.Forall₂ (fun c d => equalsIgnoringCase c d = true) cs ds

theorem dropIgnoringCase?_eq_some_iff {rest : List Char} :
    dropIgnoringCase? word text = some rest ↔ ∃ front, text = front ++ rest ∧ EqualIgnoringCase word front := by
  induction word generalizing text with
  | nil =>
    constructor
    · intro h
      obtain rfl := Option.some.inj h
      exact ⟨[], rfl, .nil⟩
    · rintro ⟨front, rfl, hfront⟩
      cases hfront
      rfl
  | cons a word ih =>
    cases text with
    | nil =>
      refine iff_of_false (by simp [dropIgnoringCase?]) ?_
      rintro ⟨front, hsplit, hfront⟩
      cases hfront
      cases hsplit
    | cons b text =>
      rw [dropIgnoringCase?]
      split_ifs with heq
      · rw [ih]
        constructor
        · rintro ⟨front, rfl, hfront⟩
          exact ⟨b :: front, rfl, .cons heq hfront⟩
        · rintro ⟨front, hsplit, hfront⟩
          cases hfront with
          | cons _ hfront =>
            obtain ⟨rfl, rfl⟩ := List.cons.inj hsplit
            exact ⟨_, rfl, hfront⟩
      · -- the first characters differ, so the word is not in front
        refine iff_of_false (by simp) ?_
        rintro ⟨front, hsplit, hfront⟩
        cases hfront with
        | cons hother _ =>
          obtain ⟨rfl, -⟩ := List.cons.inj hsplit
          exact heq hother

/-- A character before the letters is in a text only if it is in all texts that are the same but for case. -/
theorem EqualIgnoringCase.mem {c : Char} (h : EqualIgnoringCase cs ds) (hpos : 0 < c.toNat) (hlt : c.toNat < 65)
    (hmem : c ∈ ds) : c ∈ cs := by
  induction h with
  | nil => cases hmem
  | cons heq _ ih =>
    rcases List.mem_cons.mp hmem with rfl | hmem
    · rw [eq_of_equalsIgnoringCase hpos hlt heq]
      exact List.mem_cons_self
    · exact List.mem_cons_of_mem _ (ih hmem)

/-! ### Digits before a suffix -/

/-- Behind a destination comes nothing, or a fragment. -/
def IsFragment (fragment : List Char) : Prop := fragment = [] ∨ fragment.head? = some '#'

theorem isFragment_iff {fragment : List Char} : isFragment fragment = true ↔ IsFragment fragment := by
  rw [isFragment, IsFragment, Bool.or_eq_true, List.isEmpty_iff, decide_eq_true_eq]

/-- Some number of characters, but not none and at most `count`, is followed by the suffix and perhaps a fragment. -/
theorem isSome_digitsBefore?_iff {count : Nat} : (digitsBefore? suffix text count).isSome ↔
    ∃ n, 0 < n ∧ n ≤ count ∧ ∃ ending fragment, text.drop n = ending ++ fragment ∧
      EqualIgnoringCase suffix ending ∧ IsFragment fragment := by
  -- the greatest number is tried first, and then what is true of the smaller ones
  induction count with
  | zero =>
    refine iff_of_false (by simp [digitsBefore?]) ?_
    rintro ⟨n, hpos, hle, -⟩
    omega
  | succ count ih =>
    have hfits : ((dropIgnoringCase? suffix (text.drop (count + 1))).map isFragment).getD false = true ↔
        ∃ ending fragment, text.drop (count + 1) = ending ++ fragment ∧ EqualIgnoringCase suffix ending ∧
          IsFragment fragment := by
      cases hdrop : dropIgnoringCase? suffix (text.drop (count + 1)) with
      | none =>
        refine iff_of_false (by simp) ?_
        rintro ⟨ending, fragment, hsplit, hending, -⟩
        rw [dropIgnoringCase?_eq_some_iff.mpr ⟨ending, hsplit, hending⟩] at hdrop
        cases hdrop
      | some rest =>
        rw [Option.map_some, Option.getD_some, isFragment_iff]
        constructor
        · intro hrest
          obtain ⟨ending, hsplit, hending⟩ := dropIgnoringCase?_eq_some_iff.mp hdrop
          exact ⟨ending, rest, hsplit, hending, hrest⟩
        · rintro ⟨ending, fragment, hsplit, hending, hfragment⟩
          rw [dropIgnoringCase?_eq_some_iff.mpr ⟨ending, hsplit, hending⟩] at hdrop
          rwa [Option.some.inj hdrop] at hfragment
    rw [digitsBefore?]
    split_ifs with hfit
    · exact iff_of_true rfl ⟨count + 1, Nat.succ_pos _, Nat.le_refl _, hfits.mp hfit⟩
    · rw [ih]
      constructor
      · rintro ⟨n, hpos, hle, hn⟩
        exact ⟨n, hpos, Nat.le_succ_of_le hle, hn⟩
      · rintro ⟨n, hpos, hle, hn⟩
        rcases Nat.le_succ_iff.mp hle with hle | rfl
        · exact ⟨n, hpos, hle, hn⟩
        · exact absurd (hfits.mpr hn) hfit

/-- Of the digits in front of a text, some are followed by the suffix and perhaps a fragment. -/
theorem isSome_digitsBefore?_digits_iff :
    (digitsBefore? suffix text (text.takeWhile Char.isDigit).length).isSome ↔
      ∃ digits ending fragment, text = digits ++ (ending ++ fragment) ∧ digits ≠ [] ∧ (∀ c ∈ digits, c.isDigit) ∧
        EqualIgnoringCase suffix ending ∧ IsFragment fragment := by
  rw [isSome_digitsBefore?_iff]
  constructor
  · rintro ⟨n, hpos, hle, ending, fragment, hsplit, hending, hfragment⟩
    -- any number of the digits will do, as long as there is one
    have hdigits : text.take n <+: text.takeWhile Char.isDigit :=
      List.prefix_of_prefix_length_le (List.take_prefix n text) (List.takeWhile_prefix _)
        (Nat.le_trans (List.length_take_le n text) hle)
    refine ⟨text.take n, ending, fragment, ?_, ?_, fun c hc => ?_, hending, hfragment⟩
    · rw [← hsplit, List.take_append_drop]
    · have hlength := (List.takeWhile_prefix (p := Char.isDigit) (l := text)).length_le
      rw [← List.length_pos_iff, List.length_take]
      omega
    · exact List.all_eq_true.mp List.all_takeWhile c (hdigits.subset hc)
  · rintro ⟨digits, ending, fragment, rfl, hne, hdigits, hending, hfragment⟩
    refine ⟨digits.length, List.length_pos_iff.mpr hne, ?_, ending, fragment, List.drop_left, hending, hfragment⟩
    rw [List.takeWhile_append_of_pos hdigits, List.length_append]
    exact Nat.le_add_right _ _

/-! ### Destinations -/

/-- A destination names a proposal by the part `target` before its fragment: that is perhaps `./`, then the prefix,
digits and the suffix, where case does not count. -/
def NamesProposal (filePrefix suffix : String) (destination target : List Char) : Prop :=
  ∃ lead front digits ending fragment, destination = target ++ fragment ∧
    target = lead ++ (front ++ (digits ++ ending)) ∧ (lead = [] ∨ lead = ['.', '/']) ∧
    EqualIgnoringCase filePrefix.toList front ∧ digits ≠ [] ∧ (∀ c ∈ digits, c.isDigit) ∧
    EqualIgnoringCase suffix.toList ending ∧ IsFragment fragment

/-- The number is looked for behind `./`, and at the start of a destination. -/
theorem linkedDigits?_eq (filePrefix suffix destination : String) : linkedDigits? filePrefix suffix destination =
    ((dropStart? ['.', '/'] destination.toList).toList ++ [destination.toList]).findSome? fun start =>
      (dropIgnoringCase? filePrefix.toList start).bind fun rest =>
        digitsBefore? suffix.toList rest (rest.takeWhile Char.isDigit).length := by
  rw [linkedDigits?]
  cases dropStart? ['.', '/'] destination.toList <;> rfl

theorem mem_starts_iff {start : List Char} : start ∈ (dropStart? ['.', '/'] text).toList ++ [text] ↔
    ∃ lead, (lead = [] ∨ lead = ['.', '/']) ∧ text = lead ++ start := by
  have hdrop : dropStart? ['.', '/'] text = some start ↔ text = ['.', '/'] ++ start := by
    refine ⟨eq_of_dropStart?, fun heq => ?_⟩
    rw [heq]
    rfl
  rw [List.mem_append, Option.mem_toList, List.mem_singleton, hdrop]
  constructor
  · rintro (heq | rfl)
    · exact ⟨_, .inr rfl, heq⟩
    · exact ⟨[], .inl rfl, rfl⟩
  · rintro ⟨lead, rfl | rfl, heq⟩
    · exact .inr heq.symm
    · exact .inl heq

/-- A destination has the number of a proposal if and only if it names one. -/
theorem isSome_linkedDigits?_iff {filePrefix suffix destination : String} :
    (linkedDigits? filePrefix suffix destination).isSome ↔
      ∃ target, NamesProposal filePrefix suffix destination.toList target := by
  rw [linkedDigits?_eq, List.isSome_findSome?]
  simp only [List.any_eq_true]
  constructor
  · rintro ⟨start, hstart, hfound⟩
    obtain ⟨lead, hlead, hsplit⟩ := mem_starts_iff.mp hstart
    obtain ⟨digits, hfound⟩ := Option.isSome_iff_exists.mp hfound
    obtain ⟨rest, hrest, hdigits⟩ := Option.bind_eq_some_iff.mp hfound
    obtain ⟨front, rfl, hfront⟩ := dropIgnoringCase?_eq_some_iff.mp hrest
    obtain ⟨digits, ending, fragment, rfl, hne, hall, hending, hfragment⟩ :=
      isSome_digitsBefore?_digits_iff.mp (Option.isSome_of_eq_some hdigits)
    exact ⟨lead ++ (front ++ (digits ++ ending)), lead, front, digits, ending, fragment, by simp [hsplit], rfl, hlead,
      hfront, hne, hall, hending, hfragment⟩
  · rintro ⟨_, lead, front, digits, ending, fragment, hsplit, rfl, hlead, hfront, hne, hall, hending, hfragment⟩
    refine ⟨front ++ (digits ++ (ending ++ fragment)), mem_starts_iff.mpr ⟨lead, hlead, by simp [hsplit]⟩, ?_⟩
    rw [dropIgnoringCase?_eq_some_iff.mpr ⟨front, rfl, hfront⟩]
    exact isSome_digitsBefore?_digits_iff.mpr ⟨digits, ending, fragment, rfl, hne, hall, hending, hfragment⟩

/-- If neither prefix nor suffix has a `#`, the part before the fragment is the part before the first `#`. -/
theorem NamesProposal.eq_takeWhile {filePrefix suffix : String} {destination target : List Char}
    (h : NamesProposal filePrefix suffix destination target) (hpre : '#' ∉ filePrefix.toList)
    (hsuf : '#' ∉ suffix.toList) : target = destination.takeWhile (· ≠ '#') := by
  obtain ⟨lead, front, digits, ending, fragment, rfl, rfl, hlead, hfront, -, hdigits, hending, hfragment⟩ := h
  -- none of the parts before the fragment has a `#` in it: not the start of a path, nor the prefix, a digit or
  -- the suffix
  have hfree : ∀ c ∈ lead ++ (front ++ (digits ++ ending)), decide (c ≠ '#') = true := by
    intro c hc
    rw [decide_eq_true_eq]
    rintro rfl
    simp only [List.mem_append] at hc
    rcases hc with hc | hc | hc | hc
    · rcases hlead with rfl | rfl <;> simp at hc
    · exact hpre (hfront.mem (by decide) (by decide) hc)
    · exact absurd (hdigits _ hc) (by decide)
    · exact hsuf (hending.mem (by decide) (by decide) hc)
  rw [List.takeWhile_append_of_pos hfree]
  cases fragment with
  | nil => simp
  | cons c fragment =>
    obtain rfl : c = '#' := by simpa [IsFragment] using hfragment
    simp

end ProposalCheck

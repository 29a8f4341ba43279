import ProposalCheck.Proofs.Lint.Query
import ProposalCheck.Proofs.Lint.Valid
import ProposalCheck.Proofs.Reference.Mention
import ProposalCheck.Rule.Mention

/-!
# Following the advice about mentions

A mention in a header that is not in the canonical form is marked, and the label says how to write it. When all of the
marks are followed, the value has the same mentions, now in the canonical form. So nothing is left to be said, and the
same proposals are asked for.

## Main definitions

* `Follows`: what a value becomes when its marks are followed

## Main results

* `Follows.unique`: there is one way of following marks
* `ValueReferenceRule.advice_settles`: following the advice settles it
-/

namespace ProposalCheck

/-- What is marked is replaced by the form that the label asks for. The text stands behind `front` in its line. -/
inductive Follows : List Char → List Mark → List Char → List Char → Prop
  | done {front cs : List Char} : Follows front [] cs cs
  | restate {front gap text cs ds : List Char} {form : String} {marks : List Mark}
      (hrest : Follows (front ++ gap ++ text) marks cs ds) :
      Follows front
        ({ range := ⟨byteLength (front ++ gap), byteLength (front ++ gap) + byteLength text⟩
           label := s!"write this as `{form}`" } :: marks)
        (gap ++ (text ++ cs)) (gap ++ (form.toList ++ ds))

section Follows

variable {front gap cs ds : List Char} {marks : List Mark}

/-- Characters without marks stay as they are. -/
theorem Follows.prepend (h : Follows (front ++ gap) marks cs ds) : Follows front marks (gap ++ cs) (gap ++ ds) := by
  generalize hfront : front ++ gap = before at h
  cases h with
  | done => exact .done
  | @restate _ more text cs ds form marks hrest =>
    subst hfront
    rw [List.append_assoc front] at hrest ⊢
    rw [← List.append_assoc gap, ← List.append_assoc gap]
    exact .restate hrest

/-- The mark is about the next characters. -/
theorem Follows.restate_next {text : List Char} (h : Follows (front ++ text) marks cs ds) (form : String) :
    Follows front
      ({ range := ⟨byteLength front, byteLength front + byteLength text⟩
         label := s!"write this as `{form}`" } :: marks)
      (text ++ cs) (form.toList ++ ds) := by
  have hfollows := @Follows.restate front [] text cs ds form marks (by rwa [List.append_nil])
  simpa only [List.append_nil, List.nil_append] using hfollows

/-- Two splits of a text after the same number of bytes are the same. -/
theorem append_inj_of_byteLength {front' cs' : List Char} (h : front ++ cs = front' ++ cs')
    (hlength : byteLength front = byteLength front') : front = front' ∧ cs = cs' := by
  obtain ⟨gap, hfront', hcs⟩ := exists_gap_of_append_eq h (Nat.le_of_eq hlength)
  obtain ⟨gap', hfront, -⟩ := exists_gap_of_append_eq h.symm (Nat.le_of_eq hlength.symm)
  have hnil : gap = [] := by
    rw [hfront, List.append_assoc, List.self_eq_append_right, List.append_eq_nil_iff] at hfront'
    exact hfront'.2
  rw [hnil, List.append_nil] at hfront'
  rw [hnil, List.nil_append] at hcs
  exact ⟨hfront'.symm, hcs⟩

/-- The label tells the form. -/
theorem form_inj {form other : String} (h : s!"write this as `{form}`" = s!"write this as `{other}`") :
    form = other := by
  have hchars := congrArg String.toList h
  simp only [String.toList_append] at hchars
  exact String.toList_inj.mp (List.append_cancel_left (List.append_cancel_right hchars))

/-- The first mark is about what follows some characters. -/
theorem Follows.exists_of_cons {mark : Mark} (h : Follows front (mark :: marks) cs ds) :
    ∃ gap text cs' ds', ∃ form : String, mark.range.start = byteLength (front ++ gap) ∧
      mark.range.stop = byteLength (front ++ gap) + byteLength text ∧ mark.label = s!"write this as `{form}`" ∧
      cs = gap ++ (text ++ cs') ∧ ds = gap ++ (form.toList ++ ds') ∧ Follows (front ++ gap ++ text) marks cs' ds' := by
  cases h with
  | @restate _ gap text cs' ds' form _ hrest => exact ⟨gap, text, cs', ds', form, rfl, rfl, rfl, rfl, rfl, hrest⟩

/-- There is one way of following marks. -/
theorem Follows.unique {es : List Char} (h : Follows front marks cs ds) (h' : Follows front marks cs es) : ds = es := by
  induction h generalizing es with
  | done => cases h'; rfl
  | @restate front gap text cs ds form marks _ ih =>
    obtain ⟨gap', text', cs', es', form', hstart, hstop, hlabel, hcs, rfl, hrest⟩ := h'.exists_of_cons
    dsimp only at hstart hstop hlabel
    rw [byteLength_append, byteLength_append] at hstart hstop
    obtain ⟨rfl, hbehind⟩ := append_inj_of_byteLength hcs (by omega)
    obtain ⟨rfl, rfl⟩ := append_inj_of_byteLength hbehind (by omega)
    rw [form_inj hlabel, ih hrest]

end Follows

namespace ValueReferenceRule

variable {rule : ValueReferenceRule} {context : Context} {field : Field} {answers : String → FetchAnswer}

/-- The numbers mentioned in a header, each once. -/
def numbers (rule : ValueReferenceRule) (field : Field) : List Nat :=
  ((mentions rule.filePrefix field.value).map (·.number)).eraseDups

/-- Why a proposal cannot be read, if so. -/
def reason? : FetchAnswer → Option String
  | .ok _ => none
  | .error reason => some reason

/-- The rule asks for the proposal with a number. -/
def ask (rule : ValueReferenceRule) (context : Context) (number : Nat) : Check (Nat × Option String) := do
  match ← Check.fetch (rule.path context number) with
  | .ok _ => return (number, none)
  | .error reason => return (number, some reason)

/-- The finding about the mentions in a header, given why proposals cannot be read. -/
def finding (rule : ValueReferenceRule) (context : Context) (field : Field) (reason : Nat → Option String) :
    Finding (List Snippet) :=
  marksFinding context field s!"preamble header `{rule.name}` has invalid references to proposals"
    ((mentions rule.filePrefix field.value).filterMap fun mention =>
      rule.mark? context field mention (reason mention.number))
    [.help s!"reference existing proposals as `{canonicalReference rule.filePrefix 1}`"]

/-- The rule asks for each number that is mentioned and then judges the mentions. -/
theorem check_of_some (rule : ValueReferenceRule) (hfield : context.preamble.find? rule.name = some field) :
    rule.check context = Check.all ((rule.numbers field).map (rule.ask context)) >>= fun reasons =>
      liftM (rule.finding context field fun number => (reasons.lookup number).join) := by
  rw [check, hfield]
  rfl

theorem found_ask (rule : ValueReferenceRule) (context : Context) (answers : String → FetchAnswer) (number : Nat) :
    (rule.ask context number).found answers = .ok (number, reason? (answers (rule.path context number))) := by
  rw [ask, Check.found_bind, Check.found_fetch]
  dsimp only [Except.bind]
  cases answers (rule.path context number) <;> rfl

theorem asked_ask (rule : ValueReferenceRule) (context : Context) (answers : String → FetchAnswer) (number : Nat) :
    (rule.ask context number).asked answers = [rule.path context number] := by
  rw [ask, Check.asked_bind, Check.asked_fetch, Check.found_fetch]
  dsimp only
  cases answers (rule.path context number) <;> rfl

/-- What is known when all numbers are asked for. -/
theorem found_asks (rule : ValueReferenceRule) (context : Context) (answers : String → FetchAnswer)
    (numbers : List Nat) : (Check.all (numbers.map (rule.ask context))).found answers =
      .ok (numbers.map fun number => (number, reason? (answers (rule.path context number)))) := by
  rw [Check.found_all, List.mapM_map]
  exact mapM_eq_ok fun number _ => rule.found_ask context answers number

theorem nodup_eraseDups (items : List Nat) : items.eraseDups.Nodup := by
  induction hlength : items.length using Nat.strongRecOn generalizing items with
  | _ length ih =>
    subst hlength
    cases items with
    | nil => exact List.nodup_nil
    | cons first items =>
      rw [List.eraseDups_cons, List.nodup_cons]
      refine ⟨by simp [List.mem_eraseDups], ih _ ?_ _ rfl⟩
      exact Nat.lt_succ_of_le (List.length_filter_le _ _)

/-- Each number that is mentioned is asked for once. -/
theorem asked_check (rule : ValueReferenceRule) (answers : String → FetchAnswer)
    (hfield : context.preamble.find? rule.name = some field) :
    (rule.check context).asked answers = (rule.numbers field).map (rule.path context) := by
  rw [check_of_some rule hfield, Check.asked_bind, found_asks, Check.asked_all, List.flatMap_map]
  simp only [asked_ask, Check.asked_liftM, List.append_nil]
  exact List.map_eq_flatMap.symm

/-- Of proposals that can be read, the rule finds what is not in the canonical form. -/
theorem found_check (rule : ValueReferenceRule) (hfield : context.preamble.find? rule.name = some field)
    (hread : ∀ mention ∈ mentions rule.filePrefix field.value,
      ∃ text, answers (rule.path context mention.number) = .ok text) :
    (rule.check context).found answers = rule.finding context field fun _ => none := by
  rw [check_of_some rule hfield, Check.found_bind, found_asks]
  dsimp only [Except.bind]
  rw [Check.found_liftM, finding, finding]
  refine congrArg (marksFinding context field _ · _) (List.filterMap_congr fun mention hmention => ?_)
  obtain ⟨text, htext⟩ := hread mention hmention
  have hnumber : mention.number ∈ rule.numbers field := List.mem_eraseDups.mpr (List.mem_map_of_mem hmention)
  rw [List.lookup_graph (fun number => reason? (answers (rule.path context number))) hnumber, htext]
  rfl

/-- A mention is not in the canonical form. -/
def Deviates (rule : ValueReferenceRule) (mention : Mention) : Prop :=
  mention.text ≠ (canonicalReference rule.filePrefix mention.number).toList

instance (rule : ValueReferenceRule) (mention : Mention) : Decidable (rule.Deviates mention) :=
  inferInstanceAs (Decidable (_ ≠ _))

/-- The mark that says how to write a mention. -/
def advice (rule : ValueReferenceRule) (field : Field) (mention : Mention) : Mark where
  range := mention.bytesIn field
  label := s!"write this as `{canonicalReference rule.filePrefix mention.number}`"

/-- Mentions that are not in the canonical form are marked, and no others. -/
theorem filterMap_mark? (rule : ValueReferenceRule) (context : Context) (field : Field) (found : List Mention) :
    found.filterMap (fun mention => rule.mark? context field mention none) =
      (found.filter (rule.Deviates ·)).map (rule.advice field) := by
  induction found with
  | nil => rfl
  | cons mention found ih =>
    have hmark : rule.mark? context field mention none =
        if String.ofList mention.text = canonicalReference rule.filePrefix mention.number then none
        else some (rule.advice field mention) := rfl
    by_cases hform : String.ofList mention.text = canonicalReference rule.filePrefix mention.number
    · have hsame : ¬rule.Deviates mention := fun hdeviates => hdeviates (by rw [← hform, String.toList_ofList])
      rw [if_pos hform] at hmark
      rw [List.filter_cons_of_neg (by simpa using hsame), ← ih]
      simp only [List.filterMap_cons, hmark]
    · have hdeviates : rule.Deviates mention := fun htext => hform (by rw [htext, String.ofList_toList])
      rw [if_neg hform] at hmark
      rw [List.filter_cons_of_pos (by simpa using hdeviates), List.map_cons, ← ih]
      simp only [List.filterMap_cons, hmark]

/-- A mention takes the bytes of its text. -/
theorem bytesIn_eq {front text rest digits : List Char} (h : field.value.toList = front ++ (text ++ rest)) :
    Mention.bytesIn ⟨front.length, text, digits⟩ field =
      ⟨byteLength ((field.name ++ ":").toList ++ front),
        byteLength ((field.name ++ ":").toList ++ front) + byteLength text⟩ := by
  rw [Mention.bytesIn, bytesOf, field.valueOffset_eq, h, byteLength_append]
  simp

/-- The characters that mentions of the proposals have for their word when they are restated. -/
def upper (rule : ValueReferenceRule) : List Char := (upperCase (String.ofList (referenceWord rule.filePrefix))).toList

/-- Following the marks restates the mentions. -/
theorem follows_restated (rule : ValueReferenceRule) {front : List Char} {pieces : List Piece}
    (hvalue : field.value.toList = front ++ Piece.texts pieces) :
    Follows ((field.name ++ ":").toList ++ front)
      (((Piece.mentions front.length pieces).filter (rule.Deviates ·)).map (rule.advice field))
      (Piece.texts pieces) (Piece.texts (pieces.map (Piece.restated rule.upper))) := by
  induction pieces generalizing front with
  | nil => exact .done
  | cons piece pieces ih =>
    have hpiece : field.value.toList = front ++ (piece.text ++ Piece.texts pieces) := hvalue
    have hrest := @ih (front ++ piece.text) (by rw [hpiece, List.append_assoc])
    rw [← List.append_assoc, List.length_append] at hrest
    cases piece with
    | char c => exact hrest.prepend
    | mention word separators digits =>
      have hmentions : Piece.mentions front.length (.mention word separators digits :: pieces) =
          ⟨front.length, (Piece.mention word separators digits).text, digits⟩ ::
            Piece.mentions (front.length + (Piece.mention word separators digits).text.length) pieces := rfl
      have hform : (Piece.restated rule.upper (.mention word separators digits)).text =
          (canonicalReference rule.filePrefix (numberOf digits)).toList := by
        rw [Piece.restated, Piece.text, toList_canonicalReference, List.singleton_append, upper]
      rw [hmentions, List.map_cons, Piece.texts, Piece.texts, List.flatMap_cons, List.flatMap_cons, hform]
      generalize (Piece.mention word separators digits).text = text at *
      -- a mention that is marked is replaced, and one that is not marked has the canonical form already
      by_cases hdeviates : rule.Deviates ⟨front.length, text, digits⟩
      · rw [List.filter_cons_of_pos (by simpa using hdeviates), List.map_cons, advice, bytesIn_eq hpiece]
        exact hrest.restate_next _
      · rw [List.filter_cons_of_neg (by simpa using hdeviates)]
        have htext : text = (canonicalReference rule.filePrefix (numberOf digits)).toList := not_not.mp hdeviates
        rw [← htext]
        exact hrest.prepend

/-- Mentions that are restated are in the canonical form. -/
theorem not_deviates_of_mem {pieces : List Piece} {place : Nat} {mention : Mention}
    (h : mention ∈ Piece.mentions place (pieces.map (Piece.restated rule.upper))) : ¬rule.Deviates mention := by
  rw [upper] at h
  exact fun hdeviates => hdeviates (text_of_mem_restated h)

/-- The path of a proposal depends on the path of the document. -/
theorem path_congr (rule : ValueReferenceRule) {changed : Context}
    (h : changed.document.origin = context.document.origin) : rule.path changed = rule.path context := by
  funext number
  rw [path, path, Context.resolve, Context.resolve, h]

/-- Two headers that mention the same numbers ask for the same proposals. -/
theorem asked_congr (rule : ValueReferenceRule) {changed : Context} {other : Field}
    (hfield : context.preamble.find? rule.name = some field) (hother : changed.preamble.find? rule.name = some other)
    (horigin : changed.document.origin = context.document.origin)
    (hnumbers : (mentions rule.filePrefix other.value).map (·.number) =
      (mentions rule.filePrefix field.value).map (·.number)) :
    (rule.check changed).asked answers = (rule.check context).asked answers := by
  rw [asked_check rule answers hother, asked_check rule answers hfield, numbers, numbers, hnumbers,
    rule.path_congr horigin]

/-- Of proposals that can be read, the rule marks the mentions that are not in the canonical form, and no others, and
asks once for each number that is mentioned. Following the marks gives a value that mentions the same numbers in the
same order. In a document with that value the rule finds nothing, and it asks for the same proposals. -/
theorem advice_settles (rule : ValueReferenceRule) {text : String} {origin : Option String}
    (hword : ∀ c ∈ referenceWord rule.filePrefix, c.isAlphanum)
    (hletter : ∃ c ∈ referenceWord rule.filePrefix, c.isAlpha)
    (hdocument : Document.ofString text origin = .ok context.document)
    (hfield : context.preamble.find? rule.name = some field)
    (hread : ∀ mention ∈ mentions rule.filePrefix field.value,
      ∃ text, answers (rule.path context mention.number) = .ok text) :
    ∃ marks value, ∃ numbers : List Nat,
      marks = ((mentions rule.filePrefix field.value).filter (rule.Deviates ·)).map (rule.advice field) ∧
      (rule.check context).found answers = .ok (if marks = [] then [] else
        [.about s!"preamble header `{rule.name}` has invalid references to proposals"
          { origin := context.document.origin, lineStart := field.line, source := field.source, marks }
          [.help s!"reference existing proposals as `{canonicalReference rule.filePrefix 1}`"]]) ∧
      (rule.check context).asked answers = numbers.map (rule.path context) ∧ numbers.Nodup ∧
      (∀ number, number ∈ numbers ↔ ∃ mention ∈ mentions rule.filePrefix field.value, mention.number = number) ∧
      Follows (field.name ++ ":").toList marks field.value.toList value ∧
      (mentions rule.filePrefix (String.ofList value)).map (·.number) =
        (mentions rule.filePrefix field.value).map (·.number) ∧
      ∀ (changed : Context) (other : Field), changed.preamble.find? rule.name = some other →
        other.value = String.ofList value → changed.document.origin = context.document.origin →
        (rule.check changed).found answers = .ok [] ∧
          (rule.check changed).asked answers = (rule.check context).asked answers := by
  obtain ⟨pieces, htexts, hscans⟩ := exists_scans hword hletter none field.value.toList
  have hrestated := @Scans.restated none _ _ _ hscans hword hletter rule.upper (equalIgnoringCase_upperCase hword) rfl
  have hmentions : mentions rule.filePrefix field.value = Piece.mentions 0 pieces := by
    rw [mentions, mentionsOf, ← htexts, hscans.mentionsFrom_eq hword hletter]
  have hothers : mentions rule.filePrefix (String.ofList (Piece.texts (pieces.map (Piece.restated rule.upper)))) =
      Piece.mentions 0 (pieces.map (Piece.restated rule.upper)) := by
    rw [mentions, mentionsOf, String.toList_ofList, hrestated.mentionsFrom_eq hword hletter]
  have hnumbers : (mentions rule.filePrefix (String.ofList (Piece.texts
      (pieces.map (Piece.restated rule.upper))))).map (·.number) =
        (mentions rule.filePrefix field.value).map (·.number) := by
    rw [hothers, hmentions]
    exact map_number_restated rule.upper 0 0 pieces
  refine ⟨_, Piece.texts (pieces.map (Piece.restated rule.upper)), rule.numbers field, rfl, ?_,
    asked_check rule answers hfield, ?_, fun number => ?_, ?_, hnumbers, fun changed other hother hvalue horigin => ?_⟩
  · have hshows := Document.shows_of_mem hdocument (List.mem_of_find?_eq_some hfield)
    rw [found_check rule hfield hread, finding, filterMap_mark?, Context.marksFinding_eq hshows]
    intro mark hmark
    obtain ⟨mention, -, rfl⟩ := List.mem_map.mp hmark
    exact hshows.bytesOf_isWithin _
  · exact nodup_eraseDups _
  · rw [numbers, List.mem_eraseDups, List.mem_map]
  · rw [hmentions, ← htexts]
    have hfollows := @follows_restated field rule [] pieces htexts.symm
    rwa [List.append_nil] at hfollows
  · rw [← hvalue] at hothers hnumbers
    refine ⟨?_, asked_congr rule hfield hother horigin hnumbers⟩
    -- the numbers are the same, so the proposals that are read are the same
    have hread' : ∀ mention ∈ mentions rule.filePrefix other.value,
        ∃ text, answers (rule.path changed mention.number) = .ok text := by
      intro mention hmention
      have hnumber := List.mem_map_of_mem (f := Mention.number) hmention
      rw [hnumbers] at hnumber
      obtain ⟨old, hold, hsame⟩ := List.mem_map.mp hnumber
      rw [← hsame, rule.path_congr horigin]
      exact hread old hold
    have hnone : (mentions rule.filePrefix other.value).filter (rule.Deviates ·) = [] := by
      rw [List.filter_eq_nil_iff, hothers]
      exact fun mention hmention hdeviates => not_deviates_of_mem hmention (of_decide_eq_true hdeviates)
    rw [found_check rule hother hread', finding, filterMap_mark?, hnone]
    rfl

theorem advice_settles_leading_zero :
    let rule : ValueReferenceRule := ⟨"title", "eips/eip-", ".md"⟩
    let answers : String → FetchAnswer := fun path => if path = "eips/eip-20.md" then .ok "" else .error "is missing"
    (∀ c ∈ referenceWord rule.filePrefix, c.isAlphanum) ∧ (∃ c ∈ referenceWord rule.filePrefix, c.isAlpha) ∧
    ∃ document field changed other,
      Document.ofString "---\ntitle: -> eip_020\n---\n" none = .ok document ∧
      Document.ofString "---\ntitle: -> EIP-20\n---\n" none = .ok changed ∧
      document.preamble.find? "title" = some field ∧ changed.preamble.find? "title" = some other ∧
      (∀ mention ∈ mentions rule.filePrefix field.value,
        ∃ text, answers (rule.path ⟨document, {}⟩ mention.number) = .ok text) ∧
      (rule.check ⟨document, {}⟩).found answers = .ok
        [.about "preamble header `title` has invalid references to proposals"
          { lineStart := 2, source := "title: -> eip_020"
            marks := [{ range := ⟨10, 17⟩, label := "write this as `EIP-20`" }] }
          [.help "reference existing proposals as `EIP-1`"]] ∧
      (rule.check ⟨document, {}⟩).asked answers = ["eips/eip-20.md"] ∧
      (rule.check ⟨changed, {}⟩).found answers = .ok [] ∧
      (rule.check ⟨changed, {}⟩).asked answers = ["eips/eip-20.md"] := by
  intro rule answers
  have hword : ∀ c ∈ referenceWord rule.filePrefix, c.isAlphanum :=
    List.all_eq_true.mp (by decide +kernel)
  have hletter : ∃ c ∈ referenceWord rule.filePrefix, c.isAlpha :=
    List.any_eq_true.mp (by decide +kernel)
  obtain ⟨document, hdocument, -, hfacts⟩ := Document.exists_of_map_ofString
    (f := fun document => (document.origin, document.preamble.find? "title"))
    (show (Document.ofString "---\ntitle: -> eip_020\n---\n" none).map _ =
      .ok (none, some ⟨"title", " -> eip_020", 2, ⟨4, 21⟩, "title: -> eip_020"⟩) by decide +kernel)
  obtain ⟨changed, hchanged, -, hfacts'⟩ := Document.exists_of_map_ofString
    (f := fun document => (document.origin, document.preamble.find? "title"))
    (show (Document.ofString "---\ntitle: -> EIP-20\n---\n" none).map _ =
      .ok (none, some ⟨"title", " -> EIP-20", 2, ⟨4, 20⟩, "title: -> EIP-20"⟩) by decide +kernel)
  obtain ⟨horigin, hfield⟩ := Prod.mk.inj hfacts
  obtain ⟨horigin', hother⟩ := Prod.mk.inj hfacts'
  have hmentions : mentions rule.filePrefix " -> eip_020" = [⟨4, "eip_020".toList, "020".toList⟩] := by decide +kernel
  -- the word of these proposals is made of letters of ASCII
  have hform : ∀ n, canonicalReference rule.filePrefix n = "EIP-" ++ toString n := by
    intro n
    have hupper : upperCase (String.ofList (referenceWord rule.filePrefix)) = "EIP" :=
      (upperCase_eq fun c hc => (lt_of_isAlphanum (hword c hc)).2).trans (by decide +kernel)
    rw [canonicalReference, hupper]
    rfl
  have hpath : rule.path ⟨document, {}⟩ 20 = "eips/eip-20.md" := by
    rw [path, Context.resolve, horigin, resolveSibling]
    decide +kernel
  have hnumber : Mention.number ⟨4, "eip_020".toList, "020".toList⟩ = 20 := by decide
  have hread : ∀ mention ∈ mentions rule.filePrefix " -> eip_020",
      ∃ text, answers (rule.path ⟨document, {}⟩ mention.number) = .ok text := by
    rw [hmentions, List.forall_mem_singleton, hnumber, hpath]
    exact ⟨"", if_pos rfl⟩
  obtain ⟨marks, value, -, hmarks, hfound, -, -, -, hfollows, -, hsettled⟩ :=
    @advice_settles ⟨document, {}⟩ _ answers rule _ _ hword hletter hdocument hfield hread
  have hdeviates : rule.Deviates ⟨4, "eip_020".toList, "020".toList⟩ := by
    rw [Deviates, hform, hnumber]
    decide
  -- the one mention that differs from its canonical form is marked
  have hmark : marks = [{ range := ⟨10, 17⟩, label := "write this as `EIP-20`" }] := by
    rw [hmarks, hmentions, List.filter_cons_of_pos (p := (rule.Deviates ·)) (decide_eq_true hdeviates), List.filter_nil,
      List.map_singleton, advice, hform, hnumber]
    decide +kernel
  subst hmark
  -- only one value follows from the mark
  have hvalue : " -> EIP-20".toList = value := by
    have hgiven := @Follows.restate "title:".toList " -> ".toList "eip_020".toList [] [] "EIP-20" [] .done
    exact Follows.unique hgiven hfollows
  obtain ⟨hsilent, hsame⟩ := hsettled ⟨changed, {}⟩ _ hother (by rw [← hvalue]; rfl) (horigin'.trans horigin.symm)
  have hpaths : (rule.check ⟨document, {}⟩).asked answers = ["eips/eip-20.md"] := by
    rw [@asked_check ⟨document, {}⟩ _ rule answers hfield, ValueReferenceRule.numbers, hmentions, List.map_singleton,
      hnumber]
    exact congrArg (· :: []) hpath
  refine ⟨hword, hletter, document, _, changed, _, hdocument, hchanged, hfield, hother, hread, ?_, hpaths, hsilent,
    hsame.trans hpaths⟩
  rw [hfound, hform, if_neg (List.cons_ne_nil _ _)]
  dsimp only
  rw [horigin]
  rfl

end ValueReferenceRule

end ProposalCheck

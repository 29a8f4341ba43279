import ProposalCheck.Proofs.Markdown.Emphasis

/-!
# Reading pieces goes forward

A reader of pieces goes from one place of a text to a later one, and the tokens that it adds end no more
lines than it has passed line feeds. Where it only looks ahead, it adds nothing. So the pieces of a text end
no more lines than the text does.

The readers call each other, and each call has less fuel than the one around it; what holds of all of them
with some fuel is one statement, which holds of no fuel and carries over to one step more.

## Main definitions

* `InlineReader.Ends`: how reading ends from a state on
* `InlineState.Adds`: tokens are added, and the place stays
* `InlineState.Advances`: reading goes forward
* `ReadersAdvance`: all readers go forward with some fuel
* `addLink`, `addImage`, `goOnBehind`: how links and images are added, and reading goes on behind them

## Main results

* `readersAdvance`: all readers go forward
* `breaksIn_inlineTrees_le`, `isPiece_of_mem_inlineTrees`: the pieces of a text
-/

namespace ProposalCheck.Markdown

/-! ### Line feeds before a place -/

section feeds

variable {text : Array Char}

/-- The number of line feeds before a place. -/
def feedsTo (text : Array Char) (place : Nat) : Nat := (sliceOf text 0 place).count '\n'

theorem feedsTo_add {first last : Nat} (h : first ≤ last) :
    feedsTo text first + (sliceOf text first last).count '\n' = feedsTo text last := by
  rw [feedsTo, feedsTo, @sliceOf_append text 0 first last h, Nat.zero_max, List.count_append]

theorem feedsTo_mono {first last : Nat} (h : first ≤ last) : feedsTo text first ≤ feedsTo text last := by
  rw [← feedsTo_add h]
  exact Nat.le_add_right _ _

theorem feedsTo_succ {place : Nat} (h : text[place]? = some '\n') :
    feedsTo text place + 1 = feedsTo text (place + 1) := by
  rw [← feedsTo_add (Nat.le_succ place), sliceOf_cons h (Nat.lt_succ_self place), sliceOf]
  simp

end feeds

/-! ### The parts of a link -/

section parts

variable {text : Array Char}

theorem le_closingAngle {stop fuel place last : Nat} (h : closingAngle? text stop fuel place = some last) :
    place ≤ last := by
  fun_induction closingAngle? text stop fuel place with
  | case1 => cases h
  | case2 => cases h
  | case3 => cases h
  | case4 => cases h
  | case5 => cases h
  | case6 =>
    cases h
    exact Nat.le_refl _
  | case7 _ _ _ _ ih =>
    have := ih h
    split_ifs at this <;> omega
  | case8 _ _ _ _ _ _ _ _ _ ih => exact Nat.le_of_succ_le (ih h)

theorem le_bareEnd {stop fuel depth place last : Nat} (h : bareEnd? text stop fuel depth place = some last) :
    place ≤ last := by
  fun_induction bareEnd? text stop fuel depth place <;> grind

theorem le_destinationAt {place stop after : Nat} {written : String}
    (h : destinationAt? text place stop = some (written, after)) : place ≤ after := by
  rw [destinationAt?] at h
  dsimp only at h
  split_ifs at h
  · obtain ⟨last, hlast, heq⟩ := Option.map_eq_some_iff.mp h
    cases heq
    have := le_closingAngle hlast
    omega
  · split at h
    · rename_i last hlast
      split_ifs at h
      cases h
      exact le_bareEnd hlast
    · cases h

theorem le_titleEnd {start stop fuel place after : Nat} {closing : Char} {isEmpty found : Bool}
    (h : titleEnd text start stop closing isEmpty fuel place = .found found after) : place ≤ after := by
  fun_induction titleEnd text start stop closing isEmpty fuel place <;> grind

theorem le_titleAt {place stop after : Nat} {found : Bool} (h : titleAt text place stop = .found found after) :
    place ≤ after := by
  rw [titleAt] at h
  split_ifs at h
  split at h
  · split_ifs at h <;> exact Nat.le_of_succ_le (le_titleEnd h)
  · cases h

theorem le_skipGaps (place stop : Nat) : place ≤ skipGaps text place stop := le_skipWhile _ _

theorem le_inlineTarget (place stop : Nat) : place ≤ (inlineTarget text place stop).2 := by
  unfold inlineTarget
  extract_lets withTitle
  -- with a title or without one, the end is not before the blanks behind the destination
  have htitle : ∀ destination next, place ≤ next → place ≤ (withTitle destination next).2 := by
    intro destination next hnext
    have hgaps := @le_skipGaps text next stop
    dsimp only [withTitle]
    split
    · rename_i found after hfound
      have := le_titleAt hfound
      have := @le_skipGaps text after stop
      split_ifs <;> dsimp only <;> omega
    · dsimp only
      omega
  split
  · rename_i written after hwritten
    extract_lets destination
    split_ifs
    · exact htitle _ _ (le_destinationAt hwritten)
    · exact htitle _ _ (Nat.le_refl _)
  · exact Nat.le_refl _

/-- What follows the text of a link stands behind it. -/
theorem lt_of_linkTail_direct {last stop after : Nat} {destination : String}
    (h : linkTail text last stop = .direct destination after) : last < after := by
  rw [linkTail] at h
  split_ifs at h
  dsimp only at h
  split_ifs at h
  cases h
  have := @le_skipGaps text (last + 2) stop
  have := @le_inlineTarget text (skipGaps text (last + 2) stop) stop
  omega

theorem lt_of_linkTail_label {last stop place : Nat} (h : linkTail text last stop = .label place) :
    last < place := by
  rw [linkTail] at h
  split_ifs at h
  · dsimp only at h
    split_ifs at h
    cases h
    have := @le_skipGaps text (last + 2) stop
    have := @le_inlineTarget text (skipGaps text (last + 2) stop) stop
    omega
  · cases h
    exact Nat.lt_succ_self last

/-- The run of backticks that closes code ends behind the place where its search starts. -/
theorem le_closingTicks {stop length fuel place start last : Nat} {runs : List (Nat × Nat)}
    (h : (closingTicks text stop length fuel place runs).1 = some (start, last)) : place ≤ last := by
  induction fuel generalizing place runs with
  | zero => cases h
  | succ fuel ih =>
    have hstart := @le_skipWhile (· ≠ '\x60') text place (text.size - place)
    rw [closingTicks] at h
    dsimp only at h
    generalize skipWhile (· ≠ '\x60') text place (text.size - place) = start at *
    have hlast := @le_skipWhile (· = '\x60') text (start + 1) (stop - (start + 1))
    split_ifs at h
    · cases h
      omega
    · have := ih h
      omega

end parts

/-! ### How reading ends -/

namespace InlineReader

variable {α β : Type} {reader : InlineReader α} {state : InlineState}

/-- Reading from a state ends with a result and a state that meet a condition. -/
def Ends (reader : InlineReader α) (state : InlineState) (post : α → InlineState → Prop) : Prop :=
  post (reader state).1 (reader state).2

theorem Ends.mono {post weaker : α → InlineState → Prop} (h : Ends reader state post)
    (hpost : ∀ a after, post a after → weaker a after) : Ends reader state weaker := hpost _ _ h

@[simp] theorem ends_bind {next : α → InlineReader β} {post : β → InlineState → Prop} :
    Ends (reader >>= next) state post ↔ Ends reader state fun a after => Ends (next a) after post := Iff.rfl

@[simp] theorem ends_pure {a : α} {post : α → InlineState → Prop} : Ends (pure a) state post ↔ post a state :=
  Iff.rfl

@[simp] theorem ends_get {post : InlineState → InlineState → Prop} : Ends get state post ↔ post state state :=
  Iff.rfl

@[simp] theorem ends_set {next : InlineState} {post : PUnit → InlineState → Prop} :
    Ends (set next) state post ↔ post ⟨⟩ next := Iff.rfl

@[simp] theorem ends_modify {f : InlineState → InlineState} {post : PUnit → InlineState → Prop} :
    Ends (modify f) state post ↔ post ⟨⟩ (f state) := Iff.rfl

@[simp] theorem ends_goTo {place : Nat} {post : Unit → InlineState → Prop} :
    Ends (goTo place) state post ↔ post () { state with place } := Iff.rfl

/-- What each round of a loop keeps, the loop keeps. -/
theorem ends_forIn {inv : InlineState → Prop} {body : Nat → PUnit → InlineReader (ForInStep PUnit)}
    (hbody : ∀ i state, inv state → Ends (body i ⟨⟩) state fun _ after => inv after) (count : Nat)
    (h : inv state) : Ends (forIn [:count] ⟨⟩ body) state fun _ after => inv after := by
  rw [Std.Legacy.Range.forIn_eq_forIn_range']
  generalize List.range' _ _ _ = rounds
  induction rounds generalizing state with
  | nil => exact h
  | cons i rounds ih =>
    rw [List.forIn_cons, ends_bind]
    refine (hbody i state h).mono fun result after hafter => ?_
    cases result with
    | done => exact hafter
    | yield => exact ih hafter

end InlineReader

/-! ### How reading changes the state -/

namespace InlineState

variable {text : Array Char} {silent : Bool} {count more : Nat} {old state new : InlineState}

/-- The tokens stand for pieces, and what has been skipped was skipped forward. -/
structure IsSound (state : InlineState) : Prop where
  isProper : ∀ token ∈ state.tokens.toList, token.IsProper
  skips : ∀ place stop : Nat, state.skips[place]? = some (some stop) → place ≤ stop

/-- The number of line feeds that have been passed. Places behind the end count as the end. -/
def feeds (text : Array Char) (state : InlineState) : Nat := feedsTo text (min state.place state.stop)

theorem feeds_goTo (place : Nat) :
    ({ state with place } : InlineState).feeds text = feedsTo text (min place state.stop) := rfl

/-- The tokens that are added end no more than some number of lines. -/
structure Adds (count : Nat) (old new : InlineState) : Prop where
  stop : new.stop = old.stop
  breaks : breaksOf new.tokens.toList ≤ breaksOf old.tokens.toList + count
  isSound : new.IsSound

/-- The place and the tokens stay. -/
structure Stays (old new : InlineState) : Prop where
  place : new.place = old.place
  stop : new.stop = old.stop
  tokens : new.tokens = old.tokens
  isSound : new.IsSound

/-- Reading goes forward. The tokens that are added end no more lines than line feeds are passed, and there
are none if nothing is to be added. -/
structure Advances (text : Array Char) (silent : Bool) (old new : InlineState) : Prop where
  place : old.place ≤ new.place
  stop : new.stop = old.stop
  breaks : breaksOf new.tokens.toList + old.feeds text ≤ breaksOf old.tokens.toList + new.feeds text
  tokens : silent = true → new.tokens = old.tokens
  isSound : new.IsSound

/-- A reader goes forward, and stays where it is if it finds no piece. -/
structure Reads (text : Array Char) (silent : Bool) (old : InlineState) (found : Bool) (new : InlineState) :
    Prop where
  advances : old.Advances text silent new
  stays : found = false → old.Stays new

theorem Adds.refl (h : state.IsSound) : Adds 0 state state := ⟨rfl, Nat.le_refl _, h⟩

theorem Adds.trans (h : Adds count old state) (hmore : Adds more state new) : Adds (count + more) old new where
  stop := hmore.stop.trans h.stop
  breaks := by
    have := h.breaks
    have := hmore.breaks
    omega
  isSound := hmore.isSound

theorem Stays.refl (h : state.IsSound) : Stays state state := ⟨rfl, rfl, rfl, h⟩

theorem Stays.trans (h : Stays old state) (hmore : Stays state new) : Stays old new :=
  ⟨hmore.place.trans h.place, hmore.stop.trans h.stop, hmore.tokens.trans h.tokens, hmore.isSound⟩

theorem Stays.adds (h : Stays old new) : Adds 0 old new :=
  ⟨h.stop, Nat.le_of_eq (by rw [h.tokens]; rfl), h.isSound⟩

theorem Stays.advances (h : Stays old new) : Advances text silent old new where
  place := Nat.le_of_eq h.place.symm
  stop := h.stop
  breaks := Nat.le_of_eq (by rw [feeds, feeds, h.place, h.stop, h.tokens])
  tokens _ := h.tokens
  isSound := h.isSound

theorem Advances.refl (h : state.IsSound) : Advances text silent state state := (Stays.refl h).advances

theorem Advances.trans (h : Advances text silent old state) (hmore : Advances text silent state new) :
    Advances text silent old new where
  place := Nat.le_trans h.place hmore.place
  stop := hmore.stop.trans h.stop
  breaks := by
    have := h.breaks
    have := hmore.breaks
    omega
  tokens hsilent := (hmore.tokens hsilent).trans (h.tokens hsilent)
  isSound := hmore.isSound

/-- The tokens that are read from a place on end no more lines than the text does from there on. -/
theorem Advances.breaks_le (h : Advances text false old new) (htokens : old.tokens = #[]) :
    breaksOf new.tokens.toList + old.feeds text ≤ feedsTo text old.stop := by
  have hbreaks := h.breaks
  have hend : new.feeds text ≤ feedsTo text old.stop := feedsTo_mono (h.stop ▸ Nat.min_le_right _ _)
  rw [htokens] at hbreaks
  exact Nat.le_trans hbreaks (by simpa using hend)

theorem Advances.reads (h : Advances text silent old new) : old.Reads text silent true new :=
  ⟨h, fun hfound => by cases hfound⟩

theorem Stays.reads (h : Stays old new) : old.Reads text silent false new := ⟨h.advances, fun _ => h⟩

/-- Reading may go on from a place behind what has been added. -/
theorem Adds.advances (h : Adds count old state) {place : Nat} (hplace : old.place ≤ place)
    (hcount : count + old.feeds text ≤ feedsTo text (min place old.stop)) :
    Advances text false old { state with place } where
  place := hplace
  stop := h.stop
  breaks := by
    have := h.breaks
    rw [@feeds_goTo text state place, h.stop]
    dsimp only
    omega
  tokens hsilent := by cases hsilent
  isSound := ⟨h.isSound.isProper, h.isSound.skips⟩

/-- What ends no line may be added before any step forward. -/
theorem Adds.advances_zero (h : Adds 0 old state) {place : Nat} (hplace : old.place ≤ place) :
    Advances text false old { state with place } := by
  refine h.advances hplace ?_
  rw [Nat.zero_add, feeds]
  exact feedsTo_mono (by omega)

/-- A step forward without anything added. -/
theorem Stays.advances_goTo (h : Stays old state) {place : Nat} (hplace : old.place ≤ place) :
    Advances text silent old { state with place } := by
  cases silent with
  | false => exact h.adds.advances_zero hplace
  | true =>
    have hadds := @Adds.advances_zero text old state h.adds place hplace
    exact ⟨hadds.place, hadds.stop, hadds.breaks, fun _ => h.tokens, hadds.isSound⟩

end InlineState

/-! ### The steps of reading -/

namespace InlineReader

open InlineState

variable {text : Array Char} {silent : Bool} {old state : InlineState}

theorem place_flush (state : InlineState) : (flush state).2.place = state.place := by
  rw [flush, modify, modifyGet, instMonadStateOfMonadStateOf, instMonadStateOfStateTOfMonad]
  dsimp only [StateT.modifyGet, pure]
  split_ifs <;> rfl

theorem ends_flush (h : state.IsSound) : Ends flush state fun _ after => state.Adds 0 after := by
  rw [flush, ends_modify]
  split_ifs
  · exact .refl h
  · refine ⟨rfl, ?_, ?_, h.skips⟩
    · rw [Array.toList_push, breaksOf_append]
      exact Nat.le_refl _
    · rw [Array.toList_push]
      exact List.forall_mem_append.mpr ⟨h.isProper, List.forall_mem_singleton.mpr (Token.isProper_text _)⟩

theorem ends_add {token : Token} (htoken : token.IsProper) (h : state.IsSound) :
    Ends (add token) state fun _ after => state.Adds token.breaks after := by
  rw [add, ends_bind]
  refine (ends_flush h).mono fun _ after hafter => ?_
  rw [ends_modify]
  refine ⟨hafter.stop, ?_, ?_, hafter.isSound.skips⟩
  · have := hafter.breaks
    rw [Array.toList_push, breaksOf_append, breaksOf_cons, breaksOf_nil]
    omega
  · rw [Array.toList_push]
    exact List.forall_mem_append.mpr ⟨hafter.isSound.isProper, List.forall_mem_singleton.mpr htoken⟩

theorem ends_addLeaf (element : Element) (hkind : element.kind.isPiece) (h : state.IsSound) :
    Ends (addLeaf element) state fun _ after => state.Adds (if element.kind.isBreak then 1 else 0) after :=
  ends_add (.leaf hkind) h

theorem ends_addLeaf_zero {element : Element} (hkind : element.kind.isPiece)
    (hbreak : element.kind.isBreak = false) (h : state.IsSound) :
    Ends (addLeaf element) state fun _ after => state.Adds 0 after := by
  have hadds := ends_addLeaf element hkind h
  rwa [hbreak] at hadds

theorem ends_addPlain (plain : List Char) (h : state.IsSound) :
    Ends (addPlain plain) state fun _ after => state.Adds 0 after :=
  ⟨rfl, Nat.le_refl _, h.isProper, h.skips⟩

theorem ends_noteSkip {place : Nat} (hplace : place ≤ state.place) (h : state.IsSound) :
    Ends (noteSkip place) state fun _ after => state.Stays after := by
  rw [noteSkip, ends_modify]
  refine ⟨rfl, rfl, rfl, h.isProper, fun other stop hother => ?_⟩
  rw [Array.getElem?_setIfInBounds] at hother
  split_ifs at hother with heq
  · cases hother
    exact heq ▸ hplace
  · exact h.skips other stop hother

/-- Most readers add what they have read, unless they only look ahead, and go on behind it. -/
theorem ends_unless {adding : InlineReader Unit} {count next : Nat} (h : old.Stays state)
    (hadding : Ends adding state fun _ after => state.Adds count after) (hnext : old.place ≤ next)
    (hcount : count + old.feeds text ≤ feedsTo text (min next old.stop)) :
    Ends
      (if silent = true then do
        goTo next
        return true
      else do
        adding
        goTo next
        return true)
      state (old.Reads text silent) := by
  cases silent with
  | true => exact (h.advances_goTo hnext).reads
  | false =>
    simp only [Bool.false_eq_true, if_false, ends_bind, ends_goTo, ends_pure]
    refine hadding.mono fun _ after hafter => ?_
    have hadds : old.Adds (0 + count) after := h.adds.trans hafter
    rw [Nat.zero_add] at hadds
    exact (hadds.advances hnext hcount).reads

/-- What is added may end no line. -/
theorem ends_unless_zero {adding : InlineReader Unit} {next : Nat} (h : old.Stays state)
    (hadding : Ends adding state fun _ after => state.Adds 0 after) (hnext : old.place ≤ next) :
    Ends
      (if silent = true then do
        goTo next
        return true
      else do
        adding
        goTo next
        return true)
      state (old.Reads text silent) := by
  refine ends_unless h hadding hnext ?_
  rw [Nat.zero_add, feeds]
  exact feedsTo_mono (by omega)

/-! ### The readers that call no others -/

theorem ends_readPlain (h : state.IsSound) :
    Ends (readPlain text silent) state (state.Reads text silent) := by
  rw [readPlain]
  simp only [ends_bind, ends_get]
  split
  · exact (Stays.refl h).reads
  · exact ends_unless_zero (.refl h) (ends_addPlain _ h) (le_skipWhile _ _)

theorem ends_readLineEnd (hfeed : text[state.place]? = some '\n') (hplace : state.place < state.stop)
    (h : state.IsSound) :
    Ends (readLineEnd text silent) state (state.Reads text silent) := by
  have hnext := @le_skipWhile isGap text (state.place + 1) (state.stop - (state.place + 1))
  have hfeeds : 1 + state.feeds text ≤ feedsTo text
      (min (skipWhile isGap text (state.place + 1) (state.stop - (state.place + 1))) state.stop) := by
    rw [feeds, Nat.min_eq_left (Nat.le_of_lt hplace), Nat.add_comm, feedsTo_succ hfeed]
    exact feedsTo_mono (by omega)
  -- the blanks that have been read may be dropped before the break is added
  have hleaf : ∀ pending kind, kind.isBreak → Ends (addLeaf { kind }) { state with pending } fun _ after =>
      state.Advances text false { after with
        place := skipWhile isGap text (state.place + 1) (state.stop - (state.place + 1)) } := by
    intro pending kind hkind
    have hpiece : kind.isPiece := by simp [Kind.isPiece, Kind.isPlain, hkind]
    refine (@ends_addLeaf { state with pending } { kind } hpiece ⟨h.isProper, h.skips⟩).mono fun _ after hafter => ?_
    rw [if_pos hkind] at hafter
    have hadds : state.Adds 1 after := ⟨hafter.stop, hafter.breaks, hafter.isSound⟩
    exact hadds.advances (Nat.le_of_succ_le hnext) hfeeds
  rw [readLineEnd]
  simp only [ends_bind, ends_get]
  cases silent with
  | true => exact ((Stays.refl h).advances_goTo (Nat.le_of_succ_le hnext)).reads
  | false =>
    simp only [Bool.false_eq_true, if_false]
    split
    · exact (hleaf _ .hardBreak rfl).mono fun _ _ hafter => hafter.reads
    · exact (hleaf _ .softBreak rfl).mono fun _ _ hafter => hafter.reads
    · exact (hleaf state.pending .softBreak rfl).mono fun _ _ hafter => hafter.reads

theorem ends_readEscape (h : state.IsSound) :
    Ends (readEscape text silent) state (state.Reads text silent) := by
  rw [readEscape]
  simp only [ends_bind, ends_get]
  by_cases hend : state.place + 1 ≥ state.stop
  · rw [if_pos hend]
    exact (Stays.refl h).reads
  rw [if_neg hend]
  split
  · exact (Stays.refl h).reads
  · -- an escaped line end is a break
    rename_i hfeed
    have hnext := @le_skipWhile isGap text (state.place + 1 + 1) (state.stop - (state.place + 1 + 1))
    refine ends_unless (.refl h) (ends_addLeaf { kind := .hardBreak } rfl h) (by omega) ?_
    rw [feeds, Nat.min_eq_left (by omega), show Kind.hardBreak.isBreak = true from rfl, if_pos rfl]
    have hstep := feedsTo_succ hfeed
    have hfirst := @feedsTo_mono text state.place (state.place + 1) (by omega)
    have hrest := @feedsTo_mono text (state.place + 1 + 1)
      (min (skipWhile isGap text (state.place + 1 + 1) (state.stop - (state.place + 1 + 1))) state.stop)
      (by omega)
    omega
  · exact ends_unless_zero (.refl h) (ends_addLeaf_zero rfl rfl h) (by omega)

theorem ends_readCode (h : state.IsSound) :
    Ends (readCode text silent) state (state.Reads text silent) := by
  rw [readCode]
  simp only [ends_bind, ends_get]
  have hstart := @le_skipWhile (· = '\x60') text (state.place + 1) (state.stop - (state.place + 1))
  generalize skipWhile (· = '\x60') text (state.place + 1) (state.stop - (state.place + 1)) = start at *
  -- noting runs of backticks changes nothing else
  have hnoted : ∀ tickRuns ticksSeen, state.Stays { state with tickRuns, ticksSeen } :=
    fun _ _ => ⟨rfl, rfl, rfl, h.isProper, h.skips⟩
  split
  · exact ends_unless_zero (.refl h) (ends_addPlain _ h) (by omega)
  split
  · rename_i last after hclosing
    have hlast := le_closingTicks hclosing
    have hstays := hnoted (closingTicks text state.stop (start - state.place) (text.size + 1) start
      state.tickRuns).2 state.ticksSeen
    exact ends_unless_zero hstays (ends_addLeaf_zero rfl rfl hstays.isSound) (by omega)
  · have hstays := hnoted (closingTicks text state.stop (start - state.place) (text.size + 1) start
      state.tickRuns).2 true
    exact ends_unless_zero hstays (ends_addPlain _ hstays.isSound) (by omega)

theorem ends_readMarks (marker : Char) (h : state.IsSound) :
    Ends (readMarks text marker silent) state (state.Reads text silent) := by
  rw [readMarks]
  cases silent with
  | true =>
    rw [if_pos rfl]
    exact (Stays.refl h).reads
  | false =>
    rw [if_neg Bool.false_ne_true]
    simp only [ends_bind, ends_get, ends_goTo, ends_pure]
    refine (ends_flush h).mono fun _ flushed hflushed => ?_
    refine (@ends_forIn flushed (state.Adds 0) _ ?_ _ hflushed).mono fun _ after hafter => ?_
    · -- each mark is a text on its own
      intro i before hbefore
      simp only [ends_bind, ends_get, ends_modify, ends_pure]
      refine (ends_add (Token.isProper_text _) hbefore.isSound).mono fun _ after hafter => ?_
      have hadds := hbefore.trans hafter
      exact ⟨hadds.stop, hadds.breaks, hadds.isSound.isProper, hadds.isSound.skips⟩
    · exact (hafter.advances_zero (le_skipWhile _ _)).reads

theorem ends_readAddress (h : state.IsSound) :
    Ends (readAddress text silent) state (state.Reads text silent) := by
  rw [readAddress]
  simp only [ends_bind, ends_get]
  have hlast := @le_skipWhile (fun c => c ≠ '<' && c ≠ '>') text (state.place + 1) (text.size - state.place)
  split
  · exact (Stays.refl h).reads
  -- an address is a link with its text
  have hlink : ∀ destination element, element.kind.isPiece → element.kind.isBreak = false →
      Ends (add (.whole (.node { kind := .link destination, markup := "autolink", info := "auto" }
        [Tree.leaf element]))) state fun _ after => state.Adds 0 after := by
    intro destination element hkind hbreak
    have hpiece : IsPiece (Tree.node
        { kind := .link destination, markup := "autolink", info := "auto" } [Tree.leaf element]) :=
      .part rfl (List.forall_mem_singleton.mpr (.leaf hkind))
    have hbreaks : (Token.whole (Tree.node
        { kind := .link destination, markup := "autolink", info := "auto" } [Tree.leaf element])).breaks = 0 := by
      rw [Token.breaks, breaks_node, breaksIn_cons, breaks_leaf, hbreak]
      rfl
    exact hbreaks ▸ @ends_add state (.whole _) hpiece h
  split
  · split
    · exact (Stays.refl h).reads
    · exact ends_unless_zero (.refl h) (hlink _ _ rfl rfl) (by omega)
  split
  · split
    · exact (Stays.refl h).reads
    · exact ends_unless_zero (.refl h) (hlink _ _ rfl rfl) (by omega)
  · exact (Stays.refl h).reads

theorem ends_readHtml (h : state.IsSound) :
    Ends (readHtml text silent) state (state.Reads text silent) := by
  rw [readHtml]
  simp only [ends_bind, ends_get]
  split
  · exact (Stays.refl h).reads
  split
  · exact (Stays.refl h).reads
  split
  · exact (Stays.refl h).reads
  split
  · exact (Stays.refl h).reads
  · exact ends_unless_zero (.refl h) (ends_addLeaf_zero rfl rfl h) (Nat.le_add_right _ _)

theorem ends_readReferenced (h : state.IsSound) :
    Ends (readReferenced text silent) state (state.Reads text silent) := by
  rw [readReferenced]
  simp only [ends_bind, ends_get]
  split
  · exact (Stays.refl h).reads
  split
  · exact (Stays.refl h).reads
  split
  · exact (Stays.refl h).reads
  · exact ends_unless_zero (.refl h) (ends_addLeaf_zero rfl rfl h) (by omega)

end InlineReader

/-! ### The readers that call each other -/

section readers

open InlineReader InlineState

/-- All readers go forward with some fuel. What they find ahead stands within the text, behind the place
where they look for it. -/
structure ReadersAdvance (targets : LinkTargets) (fuel : Nat) : Prop where
  piece : ∀ text silent (state : InlineState), state.IsSound → state.place < state.stop →
    Ends (readPiece targets fuel text silent) state (state.Reads text silent)
  all : ∀ text (state : InlineState), state.IsSound →
    Ends (readAll targets fuel text) state fun _ after => state.Advances text false after
  skip : ∀ text (state : InlineState), state.IsSound → state.place < state.stop →
    Ends (skipPiece targets fuel text) state fun _ after => state.Advances text true after
  bracket : ∀ text flat opened (state : InlineState), state.IsSound →
    Ends (closingBracket targets fuel text flat opened) state fun found after =>
      state.Advances text true after ∧ ∀ last, found = some last → state.place ≤ last ∧ last < state.stop
  label : ∀ text flat place (state : InlineState), state.IsSound →
    Ends (labelEnd targets fuel text flat place) state fun found after =>
      state.Stays after ∧ ∀ last, found = some last → place < last ∧ last < state.stop
  target : ∀ text first last place (state : InlineState), last < place → state.IsSound →
    Ends (definedTarget targets fuel text first last place) state fun found after =>
      state.Stays after ∧ ∀ destination next, found = some (destination, next) → last < next
  link : ∀ text silent (state : InlineState), state.IsSound →
    Ends (readLink targets fuel text silent) state (state.Reads text silent)
  image : ∀ text silent (state : InlineState), state.IsSound →
    Ends (readImage targets fuel text silent) state (state.Reads text silent)

variable {targets : LinkTargets} {fuel : Nat} {text : Array Char} {silent : Bool} {state : InlineState}

/-- Without fuel nothing is read. -/
theorem readersAdvance_zero (targets : LinkTargets) : ReadersAdvance targets 0 where
  piece _ _ _ h _ := by
    rw [readPiece]
    exact (Stays.refl h).reads
  all _ _ h := by
    rw [readAll]
    exact .refl h
  skip _ _ h _ := by
    rw [skipPiece]
    exact .refl h
  bracket _ _ _ _ h := by
    rw [closingBracket]
    exact ⟨.refl h, fun _ hnone => by cases hnone⟩
  label _ _ _ _ h := by
    rw [labelEnd]
    exact ⟨.refl h, fun _ hnone => by cases hnone⟩
  target _ _ _ _ _ _ h := by
    rw [definedTarget]
    exact ⟨.refl h, fun _ _ hnone => by cases hnone⟩
  link _ _ _ h := by
    rw [readLink]
    exact (Stays.refl h).reads
  image _ _ _ h := by
    rw [readImage]
    exact (Stays.refl h).reads

theorem ReadersAdvance.piece_succ (ih : ReadersAdvance targets fuel) (h : state.IsSound)
    (hplace : state.place < state.stop) :
    Ends (readPiece targets (fuel + 1) text silent) state (state.Reads text silent) := by
  rw [readPiece]
  simp only [ends_bind, ends_get]
  -- the first character decides which reader goes on
  split
  · exact (Stays.refl h).reads
  rename_i c hc
  split
  · exact ends_readPlain h
  split
  · exact ends_readLineEnd hc hplace h
  · exact ends_readEscape h
  · exact ends_readCode h
  · exact ends_readMarks _ h
  · exact ends_readMarks _ h
  · exact ih.link text silent state h
  · exact ih.image text silent state h
  · -- what is no address may be a tag
    rw [ends_bind]
    refine (ends_readAddress h).mono fun found after hafter => ?_
    cases found with
    | true => exact hafter
    | false =>
      rw [if_neg Bool.false_ne_true]
      have hstays := hafter.stays rfl
      refine (ends_readHtml hstays.isSound).mono fun found next hnext => ?_
      exact ⟨hstays.advances.trans hnext.advances, fun hfound => hstays.trans (hnext.stays hfound)⟩
  · exact ends_readReferenced h
  · exact (Stays.refl h).reads

theorem ReadersAdvance.all_succ (ih : ReadersAdvance targets fuel) (h : state.IsSound) :
    Ends (readAll targets (fuel + 1) text) state fun _ after => state.Advances text false after := by
  rw [readAll]
  simp only [ends_bind, ends_get]
  by_cases hplace : state.place < state.stop
  · rw [if_pos hplace, ends_bind]
    have hrest : ∀ next : InlineState, state.Advances text false next →
        Ends (readAll targets fuel text) next fun _ after => state.Advances text false after :=
      fun next hnext => (ih.all text next hnext.isSound).mono fun _ _ hrest => hnext.trans hrest
    refine (ih.piece text false state h hplace).mono fun found after hafter => ?_
    cases found with
    | true => exact hrest after hafter.advances
    | false =>
      -- a character at which no piece starts is plain text
      simp only [Bool.false_eq_true, if_false, ends_bind, ends_goTo]
      have hstays := hafter.stays rfl
      refine (ends_addPlain _ hstays.isSound).mono fun _ added hadded => hrest _ ?_
      exact (hstays.adds.trans hadded).advances_zero (Nat.le_succ _)
  · rw [if_neg hplace]
    exact (ends_flush h).advances_zero (Nat.le_of_eq (place_flush state).symm)

theorem ReadersAdvance.skip_succ (ih : ReadersAdvance targets fuel) (h : state.IsSound)
    (hplace : state.place < state.stop) :
    Ends (skipPiece targets (fuel + 1) text) state fun _ after => state.Advances text true after := by
  rw [skipPiece]
  simp only [ends_bind, ends_get]
  split
  · rename_i place hskip
    exact (Stays.refl h).advances_goTo (h.skips _ _ (Option.join_eq_some_iff.mp hskip))
  -- what has been skipped is noted, and the note leads on to a later place
  have hnote : ∀ next : InlineState, state.Advances text true next →
      Ends (noteSkip state.place) next fun _ after => state.Advances text true after :=
    fun next hnext => (ends_noteSkip hnext.place hnext.isSound).mono fun _ _ hstays =>
      hnext.trans hstays.advances
  split
  · have hdeeper : state.Stays { state with depth := state.depth + 1 } := ⟨rfl, rfl, rfl, h.isProper, h.skips⟩
    rw [ends_bind, ends_set]
    simp only [ends_bind, ends_modify]
    refine (ih.piece text true _ hdeeper.isSound hplace).mono fun found after hafter => ?_
    -- the depth plays no part in how far a state is
    have hback : ∀ {next : InlineState}, state.Advances text true next →
        state.Advances text true { next with depth := state.depth } := fun hnext =>
      ⟨hnext.place, hnext.stop, hnext.breaks, hnext.tokens, hnext.isSound.isProper, hnext.isSound.skips⟩
    cases found with
    | true => exact hnote _ (hback (hdeeper.advances.trans hafter.advances))
    | false =>
      have hstays := hdeeper.trans (hafter.stays rfl)
      rw [if_neg Bool.false_ne_true, ends_bind, ends_goTo]
      exact hnote _ (hback (hstays.advances_goTo (Nat.le_succ _)))
  · rw [ends_bind, ends_goTo]
    exact hnote _ ((Stays.refl h).advances_goTo (by omega))

theorem ReadersAdvance.bracket_succ (ih : ReadersAdvance targets fuel) (flat : Bool) (opened : Nat)
    (h : state.IsSound) :
    Ends (closingBracket targets (fuel + 1) text flat opened) state fun found after =>
      state.Advances text true after ∧ ∀ last, found = some last → state.place ≤ last ∧ last < state.stop := by
  rw [closingBracket]
  simp only [ends_bind, ends_get]
  by_cases hplace : state.place ≥ state.stop
  · rw [if_pos hplace]
    exact ⟨.refl h, fun _ hnone => by cases hnone⟩
  rw [if_neg hplace]
  split
  · refine ⟨.refl h, fun last hlast => ?_⟩
    cases hlast
    omega
  rw [ends_bind]
  refine (ih.skip text state h (by omega)).mono fun _ skipped hskipped => ?_
  -- the search goes on behind what has been skipped
  have hrest : ∀ flat opened, Ends (closingBracket targets fuel text flat opened) skipped fun found after =>
      state.Advances text true after ∧ ∀ last, found = some last → state.place ≤ last ∧ last < state.stop := by
    intro flat opened
    refine (ih.bracket text flat opened skipped hskipped.isSound).mono fun found after hafter => ?_
    refine ⟨hskipped.trans hafter.1, fun last hlast => ?_⟩
    obtain ⟨hle, hlt⟩ := hafter.2 last hlast
    exact ⟨Nat.le_trans hskipped.place hle, hskipped.stop ▸ hlt⟩
  split
  · simp only [ends_bind, ends_get]
    split
    · exact hrest _ _
    · split
      · exact ⟨hskipped, fun _ hnone => by cases hnone⟩
      · exact hrest _ _
  · exact hrest _ _

theorem ReadersAdvance.label_succ (ih : ReadersAdvance targets fuel) (flat : Bool) (place : Nat)
    (h : state.IsSound) :
    Ends (labelEnd targets (fuel + 1) text flat place) state fun found after =>
      state.Stays after ∧ ∀ last, found = some last → place < last ∧ last < state.stop := by
  rw [labelEnd]
  simp only [ends_bind, ends_get, ends_goTo, ends_pure]
  refine (ih.bracket text flat 1 { state with place := place + 1 } ⟨h.isProper, h.skips⟩).mono
    fun found after hafter => ?_
  obtain ⟨hadvances, hfound⟩ := hafter
  exact ⟨⟨rfl, hadvances.stop, hadvances.tokens rfl, hadvances.isSound.isProper, hadvances.isSound.skips⟩, hfound⟩

theorem ReadersAdvance.target_succ (ih : ReadersAdvance targets fuel) {first last place : Nat}
    (hlast : last < place) (h : state.IsSound) :
    Ends (definedTarget targets (fuel + 1) text first last place) state fun found after =>
      state.Stays after ∧ ∀ destination next, found = some (destination, next) → last < next := by
  rw [definedTarget]
  split
  · exact ⟨.refl h, fun _ _ hnone => by cases hnone⟩
  simp only [ends_bind, ends_get]
  split
  · rw [ends_bind]
    refine (ih.label text false place state h).mono fun own after hafter => ?_
    -- the target ends behind the label of its own, or behind the text of the link
    refine ⟨hafter.1, fun destination next hnext => ?_⟩
    cases own with
    | none =>
      obtain ⟨_, -, heq⟩ := Option.map_eq_some_iff.mp hnext
      obtain rfl := (Prod.mk.inj heq).2
      exact Nat.lt_succ_self last
    | some stop =>
      obtain ⟨hstop, -⟩ := hafter.2 stop rfl
      obtain ⟨_, -, heq⟩ := Option.map_eq_some_iff.mp hnext
      obtain rfl := (Prod.mk.inj heq).2
      exact Nat.lt_succ_of_lt (Nat.lt_trans hlast hstop)
  · refine ⟨.refl h, fun destination next hnext => ?_⟩
    obtain ⟨_, -, heq⟩ := Option.map_eq_some_iff.mp hnext
    obtain rfl := (Prod.mk.inj heq).2
    exact Nat.lt_succ_self last

/-- A piece with other pieces in it ends as many lines as these. -/
theorem ends_addNode {element : Element} (hkind : element.kind.isPart) (hbreak : element.kind.isBreak = false)
    {inner : InlineState} (hinner : ∀ token ∈ inner.tokens.toList, token.IsProper) (h : state.IsSound) :
    Ends (add (.whole (.node element inner.trees))) state fun _ after =>
      state.Adds (breaksOf inner.tokens.toList) after := by
  have hpiece : IsPiece (.node element inner.trees) := .part hkind fun _ => isPiece_of_mem_emphasize hinner
  refine (@ends_add state (.whole _) hpiece h).mono fun _ after hafter => ⟨hafter.stop, ?_, hafter.isSound⟩
  have hbreaks := hafter.breaks
  rw [Token.breaks, breaks_node, hbreak, InlineState.trees] at hbreaks
  have hle := breaksIn_emphasize_le inner.marks hinner
  simp only [Bool.false_eq_true, if_false] at hbreaks
  omega

/-- Reads the text of a link between its brackets, and adds the link around what has been read. -/
def addLink (targets : LinkTargets) (fuel : Nat) (text : Array Char) (first last : Nat)
    (destination : String) : InlineReader Unit := do
  flush
  let outer ← get
  set { outer with place := first, stop := last, depth := outer.depth + 1, tokens := #[], marks := #[] }
  readAll targets fuel text
  flush
  let inner ← get
  set { inner with stop := outer.stop, depth := outer.depth, tokens := outer.tokens, marks := outer.marks }
  add (.whole (.node { kind := .link destination } inner.trees))

/-- Adds an image, the text of which is read on its own. -/
def addImage (targets : LinkTargets) (fuel : Nat) (text : Array Char) (first last : Nat)
    (destination : String) : InlineReader Unit :=
  add (.whole (.node
    { kind := .image destination, content := String.ofList (text.extract first last).toList }
    ((readAll targets fuel (text.extract first last)).run (.start (text.extract first last))).2.trees))

/-- Goes on behind a target, and adds a piece with it unless the reader only looks ahead. -/
def goOnBehind (silent : Bool) (adding : String → InlineReader Unit) :
    Option (String × Nat) → InlineReader Bool
  | none => return false
  | some (destination, next) => do
    unless silent do adding destination
    goTo next
    return true

theorem ReadersAdvance.ends_addLink (ih : ReadersAdvance targets fuel) {first last : Nat}
    (hfirst : first ≤ last) (destination : String) (h : state.IsSound) :
    Ends (addLink targets fuel text first last destination) state fun _ after =>
      state.Adds ((sliceOf text first last).count '\n') after := by
  rw [addLink]
  simp only [ends_bind, ends_get, ends_set]
  refine (ends_flush h).mono fun _ outer houter => ?_
  refine (ih.all text { outer with
    place := first, stop := last, depth := outer.depth + 1, tokens := #[], marks := #[] }
    ⟨by simp, houter.isSound.skips⟩).mono fun _ read hread => ?_
  refine (ends_flush hread.isSound).mono fun _ inner hinner => ?_
  refine Ends.mono (ends_addNode rfl rfl hinner.isSound.isProper
    ⟨houter.isSound.isProper, hinner.isSound.skips⟩) fun _ after hafter => ?_
  -- the pieces that have been read end no more lines than the text between the brackets
  have hcount : breaksOf inner.tokens.toList ≤ (sliceOf text first last).count '\n' := by
    have hread := hread.breaks_le rfl
    rw [feeds, Nat.min_eq_left hfirst, ← feedsTo_add hfirst, Nat.add_comm] at hread
    exact Nat.le_trans hinner.breaks (Nat.le_of_add_le_add_left hread)
  exact ⟨hafter.stop.trans houter.stop,
    Nat.le_trans hafter.breaks (Nat.add_le_add houter.breaks hcount), hafter.isSound⟩

theorem isSound_start (text : Array Char) : (InlineState.start text).IsSound where
  isProper := by simp [InlineState.start]
  skips place stop hskip := by
    rw [InlineState.start, Array.getElem?_replicate] at hskip
    split_ifs at hskip
    cases hskip

/-- A text that is read on its own gives tokens that end no more lines than it does. -/
theorem ReadersAdvance.alone (ih : ReadersAdvance targets fuel) (text : Array Char) :
    AreProper (text.toList.count '\n') ((readAll targets fuel text).run (.start text)).2.tokens.toList := by
  have hread : (InlineState.start text).Advances text false ((readAll targets fuel text).run (.start text)).2 :=
    ih.all text _ (isSound_start text)
  refine ⟨?_, hread.isSound.isProper⟩
  have hall : feedsTo text (InlineState.start text).stop = text.toList.count '\n' := by
    rw [feedsTo, sliceOf]
    exact congrArg (fun all : Array Char => all.toList.count '\n') (Array.extract_size)
  exact Nat.le_trans (Nat.le_add_right _ _) (hall ▸ hread.breaks_le rfl)

theorem ReadersAdvance.ends_addImage (ih : ReadersAdvance targets fuel) (first last : Nat)
    (destination : String) (h : state.IsSound) :
    Ends (addImage targets fuel text first last destination) state fun _ after =>
      state.Adds ((sliceOf text first last).count '\n') after := by
  obtain ⟨hbreaks, hproper⟩ := ih.alone (text.extract first last)
  refine (ends_addNode rfl rfl hproper h).mono fun _ after hafter => ?_
  exact ⟨hafter.stop, Nat.le_trans hafter.breaks (Nat.add_le_add_left hbreaks _), hafter.isSound⟩

/-- Between brackets in front of a target there are no more line feeds than are passed with it. -/
theorem ends_goOnBehind {adding : String → InlineReader Unit} {old : InlineState} {first last : Nat}
    {target : Option (String × Nat)} (hfirst : old.place ≤ first) (hle : first ≤ last)
    (hlast : last < old.stop) (hstays : old.Stays state)
    (hadding : ∀ destination, Ends (adding destination) state fun _ after =>
      state.Adds ((sliceOf text first last).count '\n') after)
    (htarget : ∀ destination next, target = some (destination, next) → last < next) :
    Ends (goOnBehind silent adding target) state (old.Reads text silent) := by
  cases target with
  | none => exact hstays.reads
  | some target =>
    have hnext := htarget target.1 target.2 rfl
    refine ends_unless hstays (hadding target.1) (by omega) ?_
    have hbefore : old.feeds text ≤ feedsTo text first := feedsTo_mono (by omega)
    have hinside := @feedsTo_add text first last hle
    have hbehind : feedsTo text last ≤ feedsTo text (min target.2 old.stop) := feedsTo_mono (by omega)
    omega

theorem ReadersAdvance.link_succ (ih : ReadersAdvance targets fuel) (h : state.IsSound) :
    Ends (readLink targets (fuel + 1) text silent) state (state.Reads text silent) := by
  rw [readLink]
  simp only [ends_bind, ends_get]
  refine (ih.label text true state.place state h).mono fun found labelled hlabelled => ?_
  obtain ⟨hlabelled, hfound⟩ := hlabelled
  cases found with
  | none => exact hlabelled.reads
  | some last =>
    obtain ⟨hfirst, hlast⟩ := hfound last rfl
    -- wherever the target comes from, it ends behind the text of the link
    have hgoOn : ∀ {before} target, state.Stays before →
        (∀ destination next, target = some (destination, next) → last < next) →
        Ends (goOnBehind silent (addLink targets fuel text (state.place + 1) last) target) before
          (state.Reads text silent) := fun _ hbefore =>
      ends_goOnBehind (Nat.le_succ _) hfirst hlast hbefore fun destination =>
        ih.ends_addLink hfirst destination hbefore.isSound
    dsimp only
    split
    · rename_i hdirect
      refine hgoOn (some (_, _)) hlabelled fun _ _ htarget => ?_
      cases htarget
      exact lt_of_linkTail_direct hdirect
    · rename_i hlabel
      rw [ends_bind]
      refine (ih.target text _ last _ labelled (lt_of_linkTail_label hlabel) hlabelled.isSound).mono
        fun target before hbefore => ?_
      exact hgoOn target (hlabelled.trans hbefore.1) hbefore.2
    · exact hgoOn none hlabelled fun _ _ hnone => by cases hnone

theorem ReadersAdvance.image_succ (ih : ReadersAdvance targets fuel) (h : state.IsSound) :
    Ends (readImage targets (fuel + 1) text silent) state (state.Reads text silent) := by
  rw [readImage]
  simp only [ends_bind, ends_get]
  split
  · exact (Stays.refl h).reads
  rw [ends_bind]
  refine (ih.label text false (state.place + 1) state h).mono fun found labelled hlabelled => ?_
  obtain ⟨hlabelled, hfound⟩ := hlabelled
  cases found with
  | none => exact hlabelled.reads
  | some last =>
    obtain ⟨hfirst, hlast⟩ := hfound last rfl
    -- wherever the target comes from, it ends behind the text of the image
    have hgoOn : ∀ {before} target, state.Stays before →
        (∀ destination next, target = some (destination, next) → last < next) →
        Ends (goOnBehind silent (addImage targets fuel text (state.place + 2) last) target) before
          (state.Reads text silent) := fun _ hbefore =>
      ends_goOnBehind (Nat.le_add_right _ 2) hfirst hlast hbefore fun destination =>
        ih.ends_addImage _ _ destination hbefore.isSound
    dsimp only
    split
    · rename_i hdirect
      refine hgoOn (some (_, _)) hlabelled fun _ _ htarget => ?_
      cases htarget
      exact lt_of_linkTail_direct hdirect
    · rename_i hlabel
      split
      · exact hgoOn none hlabelled fun _ _ hnone => by cases hnone
      · rw [ends_bind]
        refine (ih.target text _ last _ labelled (lt_of_linkTail_label hlabel) hlabelled.isSound).mono
          fun target before hbefore => ?_
        exact hgoOn target (hlabelled.trans hbefore.1) hbefore.2
    · exact hgoOn none hlabelled fun _ _ hnone => by cases hnone

/-- All readers go forward, however much fuel there is. -/
theorem readersAdvance (targets : LinkTargets) (fuel : Nat) : ReadersAdvance targets fuel := by
  induction fuel with
  | zero => exact readersAdvance_zero targets
  | succ fuel ih =>
    exact {
      piece := fun _ _ _ h hplace => ih.piece_succ h hplace
      all := fun _ _ h => ih.all_succ h
      skip := fun _ _ h hplace => ih.skip_succ h hplace
      bracket := fun _ flat opened _ h => ih.bracket_succ flat opened h
      label := fun _ flat place _ h => ih.label_succ flat place h
      target := fun _ _ _ _ _ hlast h => ih.target_succ hlast h
      link := fun _ _ _ h => ih.link_succ h
      image := fun _ _ _ h => ih.image_succ h }

end readers

/-! ### The pieces of a text -/

section inlineTrees

variable (targets : LinkTargets) (content : String)

/-- The pieces of a text end no more lines than the text does. -/
theorem breaksIn_inlineTrees_le : breaksIn (inlineTrees targets content) ≤ content.toList.count '\n' := by
  obtain ⟨hbreaks, hproper⟩ := (readersAdvance targets
    (40 * (content.toList.toArray.size + 10) * (content.toList.toArray.size + 10))).alone content.toList.toArray
  exact Nat.le_trans (breaksIn_joinEscapesAll_le _) (Nat.le_trans (breaksIn_emphasize_le _ hproper) hbreaks)

/-- A text is read as pieces of text. -/
theorem isPiece_of_mem_inlineTrees {piece : Tree} (h : piece ∈ inlineTrees targets content) : IsPiece piece := by
  obtain ⟨-, hproper⟩ := (readersAdvance targets
    (40 * (content.toList.toArray.size + 10) * (content.toList.toArray.size + 10))).alone content.toList.toArray
  exact isPiece_of_mem_joinEscapesAll (fun _ htree => isPiece_of_mem_emphasize hproper htree) h

end inlineTrees

end ProposalCheck.Markdown

import Mathlib.Data.List.Nodup
import Mathlib.Logic.Relation
import ProposalCheck.Proofs.Source.Rows
import ProposalCheck.Reference.StatusFlow

/-!
# Reachable statuses

In ranks that are well formed every status has one rank, and there is a step to all statuses of that rank
and of the next one. Since no rank is empty, the statuses that can be reached from a status are those whose
rank is not lower, however many ranks lie in between.

## Main definitions

* `StatusFlow.IsProper`: ranks that are well formed
* `StatusFlow.HasRank`: a status belongs to a rank
* `StatusFlow.Precedes`: a status has a lower rank than another one
* `StatusFlow.Neighbours`: a status belongs to the rank of another one or to the next rank
* `StatusFlow.Way`: a way of at most a number of steps

## Main results

* `StatusFlow.isProper_of_ofRanks`, `StatusFlow.ofRanks_eq_ok`: a flow is made of well-formed ranks
* `StatusFlow.mem_reachedFrom`: what is reached by a number of steps is what there is a way to
* `StatusFlow.IsProper.mayReference_iff`: a status may refer to those whose rank is not lower
* `StatusFlow.IsProper.referrers_eq`: going back from a status finds those that may refer to it
* `StatusFlow.reachable_iff_rank_le`: what is a flow, and what may be referred to in it
-/

namespace ProposalCheck

namespace StatusFlow

variable {flow : StatusFlow} {status target : String} {rank : Nat}

/-- Every rank has a status, and no status occurs twice. -/
structure IsProper (flow : StatusFlow) : Prop where
  ne_nil : ∀ group ∈ flow.ranks, group ≠ []
  nodup : flow.statuses.Nodup

/-- A status belongs to the rank with a number. -/
def HasRank (flow : StatusFlow) (status : String) (rank : Nat) : Prop :=
  ∃ group, flow.ranks[rank]? = some group ∧ status ∈ group

/-- Both statuses have ranks, and that of the first is lower. -/
def Precedes (flow : StatusFlow) (status other : String) : Prop :=
  ∃ rank later, flow.HasRank status rank ∧ flow.HasRank other later ∧ rank < later

/-! ### Well-formed ranks -/

theorem seeGroup_spec {seen group all : List String} (h : seeGroup seen group = .ok all) :
    all = seen ++ group ∧ (seen.Nodup → all.Nodup) := by
  induction group generalizing seen with
  | nil =>
    obtain rfl := Except.ok.inj h
    exact ⟨(List.append_nil _).symm, id⟩
  | cons status rest ih =>
    rw [seeGroup] at h
    split_ifs at h with hmem
    obtain ⟨rfl, hnodup⟩ := ih h
    refine ⟨List.append_assoc .., fun hseen => hnodup ?_⟩
    rw [List.nodup_append']
    exact ⟨hseen, List.nodup_singleton _, List.disjoint_singleton.mpr hmem⟩

theorem seeRanks_spec {seen all : List String} {ranks : List (List String)}
    (h : seeRanks seen rank ranks = .ok all) :
    all = seen ++ ranks.flatten ∧ (∀ group ∈ ranks, group ≠ []) ∧ (seen.Nodup → all.Nodup) := by
  induction ranks generalizing seen rank with
  | nil =>
    obtain rfl := Except.ok.inj h
    exact ⟨(List.append_nil _).symm, fun _ hmem => absurd hmem List.not_mem_nil, id⟩
  | cons group rest ih =>
    rw [seeRanks] at h
    split_ifs at h with hempty
    obtain ⟨seen', hgroup, h⟩ := exists_of_bind_eq_ok h
    obtain ⟨rfl, hnodup⟩ := seeGroup_spec hgroup
    obtain ⟨rfl, hrest, hnodup'⟩ := ih h
    exact ⟨by rw [List.append_assoc, List.flatten_cons], List.forall_mem_cons.mpr ⟨hempty, hrest⟩,
      fun hseen => hnodup' (hnodup hseen)⟩

theorem seeGroup_eq_ok {seen group : List String} (h : (seen ++ group).Nodup) :
    seeGroup seen group = .ok (seen ++ group) := by
  induction group generalizing seen with
  | nil => rw [seeGroup, List.append_nil]
  | cons status rest ih =>
    have hmem : status ∉ seen := fun hmem =>
      (List.disjoint_of_nodup_append h) hmem List.mem_cons_self
    rw [List.append_cons] at h ⊢
    rw [seeGroup, if_neg hmem, ih h]

theorem seeRanks_eq_ok {seen : List String} {ranks : List (List String)} (hne : ∀ group ∈ ranks, group ≠ [])
    (h : (seen ++ ranks.flatten).Nodup) : seeRanks seen rank ranks = .ok (seen ++ ranks.flatten) := by
  induction ranks generalizing seen rank with
  | nil => rw [seeRanks, List.flatten_nil, List.append_nil]
  | cons group rest ih =>
    rw [List.flatten_cons, ← List.append_assoc] at h ⊢
    rw [seeRanks, if_neg (hne group List.mem_cons_self), seeGroup_eq_ok h.of_append_left]
    exact ih (fun other hother => hne other (List.mem_cons_of_mem _ hother)) h

/-- What is taken for a flow consists of the given ranks, and these are well formed. -/
theorem isProper_of_ofRanks {ranks : List (List String)} (h : ofRanks ranks = .ok flow) :
    flow.ranks = ranks ∧ flow.IsProper := by
  obtain ⟨all, hall, rfl⟩ := exists_of_map_eq_ok h
  obtain ⟨rfl, hne, hnodup⟩ := seeRanks_spec hall
  exact ⟨rfl, hne, hnodup List.nodup_nil⟩

/-- Well-formed ranks are taken for a flow. -/
theorem ofRanks_eq_ok (h : flow.IsProper) : ofRanks flow.ranks = .ok flow := by
  rw [ofRanks, seeRanks_eq_ok h.ne_nil h.nodup]
  rfl

/-! ### Ranks -/

theorem contains_iff : flow.contains status = true ↔ ∃ rank, flow.HasRank status rank := by
  rw [contains, decide_eq_true_eq, statuses, List.mem_flatten]
  constructor
  · rintro ⟨group, hgroup, hmem⟩
    obtain ⟨rank, hrank⟩ := List.mem_iff_getElem?.mp hgroup
    exact ⟨rank, group, hrank, hmem⟩
  · rintro ⟨rank, group, hrank, hmem⟩
    exact ⟨group, List.mem_of_getElem? hrank, hmem⟩

theorem HasRank.lt (h : flow.HasRank status rank) : rank < flow.ranks.length :=
  (List.getElem?_eq_some_iff.mp h.choose_spec.1).1

/-- Every rank up to the last one belongs to some status. -/
theorem IsProper.exists_hasRank (h : flow.IsProper) (hrank : rank < flow.ranks.length) :
    ∃ status, flow.HasRank status rank := by
  obtain ⟨status, hmem⟩ := List.exists_mem_of_ne_nil _ (h.ne_nil _ (List.getElem_mem hrank))
  exact ⟨status, _, List.getElem?_eq_getElem hrank, hmem⟩

/-- No status belongs to two ranks. -/
theorem IsProper.rank_unique (h : flow.IsProper) {other : Nat} (hrank : flow.HasRank status rank)
    (hother : flow.HasRank status other) : rank = other := by
  obtain ⟨group, hgroup, hmem⟩ := hrank
  obtain ⟨group', hgroup', hmem'⟩ := hother
  obtain ⟨hlt, rfl⟩ := List.getElem?_eq_some_iff.mp hgroup
  obtain ⟨hlt', rfl⟩ := List.getElem?_eq_some_iff.mp hgroup'
  have hapart := List.pairwise_iff_getElem.mp (List.nodup_flatten.mp h.nodup).2
  rcases Nat.lt_trichotomy rank other with hbefore | heq | hbefore
  · exact absurd hmem' (hapart rank other hlt hlt' hbefore hmem)
  · exact heq
  · exact absurd hmem (hapart other rank hlt' hlt hbefore hmem')

/-- The rank that is looked up is the rank that a status belongs to. -/
theorem IsProper.rank?_eq_some_iff (h : flow.IsProper) : flow.rank? status = some rank ↔ flow.HasRank status rank := by
  have hfound : ∀ {found}, flow.rank? status = some found → flow.HasRank status found := by
    intro found hfound
    obtain ⟨hlt, hmem, -⟩ := List.findIdx?_eq_some_iff_getElem.mp hfound
    exact ⟨_, List.getElem?_eq_getElem hlt, List.contains_iff_mem.mp hmem⟩
  refine ⟨hfound, fun hrank => ?_⟩
  cases hnone : flow.rank? status with
  | some found => rw [h.rank_unique (hfound hnone) hrank]
  | none =>
    obtain ⟨group, hgroup, hmem⟩ := hrank
    have hmiss := List.findIdx?_eq_none_iff.mp hnone group (List.mem_of_getElem? hgroup)
    rw [List.contains_iff_mem.mpr hmem] at hmiss
    cases hmiss

/-! ### Steps -/

/-- The second status belongs to the rank of the first or to the next rank. -/
def Neighbours (ranks : List (List String)) (status target : String) : Prop :=
  ∃ rank group other, ranks[rank]? = some group ∧ status ∈ group ∧
    (ranks[rank]? = some other ∨ ranks[rank + 1]? = some other) ∧ target ∈ other

theorem not_neighbours_nil : ¬Neighbours [] status target := by
  rintro ⟨rank, group, other, hgroup, -⟩
  cases hgroup

theorem neighbours_cons_of_not_mem {group : List String} {rest : List (List String)} (h : status ∉ group) :
    Neighbours (group :: rest) status target ↔ Neighbours rest status target := by
  constructor
  · rintro ⟨rank, group', other, hgroup, hstatus, hother⟩
    cases rank with
    | zero =>
      obtain rfl := Option.some.inj hgroup
      exact absurd hstatus h
    | succ rank => exact ⟨rank, group', other, hgroup, hstatus, hother⟩
  · rintro ⟨rank, hrank⟩
    exact ⟨rank + 1, hrank⟩

/-- The ranks behind the one that holds the status do not hold it. -/
theorem neighbours_cons_of_mem {group : List String} {rest : List (List String)}
    (hapart : (group :: rest).Pairwise List.Disjoint) (h : status ∈ group) :
    Neighbours (group :: rest) status target ↔ target ∈ group ∨ ∃ next ∈ rest.head?, target ∈ next := by
  constructor
  · rintro ⟨rank, group', other, hgroup, hstatus, hother, htarget⟩
    cases rank with
    | zero =>
      rcases hother with hother | hother
      · obtain rfl := Option.some.inj hother
        exact .inl htarget
      · rw [List.getElem?_cons_succ, ← List.head?_eq_getElem?] at hother
        exact .inr ⟨other, hother, htarget⟩
    | succ rank =>
      exact absurd hstatus ((List.pairwise_cons.mp hapart).1 group' (List.mem_of_getElem? hgroup) h)
  · rintro (htarget | ⟨next, hnext, htarget⟩)
    · exact ⟨0, group, group, rfl, h, .inl rfl, htarget⟩
    · rw [List.head?_eq_getElem?] at hnext
      exact ⟨0, group, next, rfl, h, .inr hnext, htarget⟩

/-- A step leads to the statuses of the rank and of the next one. -/
theorem mem_stepsIn {ranks : List (List String)} (hapart : ranks.Pairwise List.Disjoint) :
    target ∈ stepsIn status ranks ↔ Neighbours ranks status target := by
  fun_induction stepsIn status ranks with
  | case1 => simp [not_neighbours_nil]
  | case2 group hmem => simp [neighbours_cons_of_mem hapart hmem]
  | case3 group hmem => simp [neighbours_cons_of_not_mem hmem, not_neighbours_nil]
  | case4 group next rest hmem => simp [neighbours_cons_of_mem hapart hmem]
  | case5 group next rest hmem ih =>
    rw [neighbours_cons_of_not_mem hmem, ih (List.pairwise_cons.mp hapart).2]

theorem IsProper.mem_steps (h : flow.IsProper) : target ∈ flow.steps status ↔
    ∃ rank other, flow.HasRank status rank ∧ flow.HasRank target other ∧ rank ≤ other ∧ other ≤ rank + 1 := by
  rw [steps, mem_stepsIn (List.nodup_flatten.mp h.nodup).2]
  constructor
  · rintro ⟨rank, group, other, hgroup, hstatus, hother | hother, htarget⟩
    · exact ⟨rank, rank, ⟨group, hgroup, hstatus⟩, ⟨other, hother, htarget⟩, Nat.le_refl _, Nat.le_succ _⟩
    · exact ⟨rank, rank + 1, ⟨group, hgroup, hstatus⟩, ⟨other, hother, htarget⟩, Nat.le_succ _, Nat.le_refl _⟩
  · rintro ⟨rank, other, ⟨group, hgroup, hstatus⟩, ⟨group', hgroup', htarget⟩, hle, hle'⟩
    refine ⟨rank, group, group', hgroup, hstatus, ?_, htarget⟩
    rcases Nat.eq_or_lt_of_le hle with rfl | hlt
    · exact .inl hgroup'
    · obtain rfl : other = rank + 1 := Nat.le_antisymm hle' hlt
      exact .inr hgroup'

/-! ### Ways -/

/-- There is a way of at most `length` steps from one status to another, each to one of the `next`. -/
inductive Way (next : String → List String) : Nat → String → String → Prop
  | refl (length : Nat) (status : String) : Way next length status status
  | head {length : Nat} {status between target : String} : between ∈ next status →
      Way next length between target → Way next (length + 1) status target

namespace Way

variable {next back : String → List String} {length more : Nat} {between : String}

theorem mono (h : Way next length status target) (hle : length ≤ more) : Way next more status target := by
  induction h generalizing more with
  | refl length status => exact .refl more status
  | head hstep _ ih =>
    obtain ⟨more, rfl⟩ := Nat.exists_eq_add_of_le' (Nat.le_trans (Nat.succ_le_succ (Nat.zero_le _)) hle)
    exact .head hstep (ih (Nat.le_of_succ_le_succ hle))

theorem tail (h : Way next length status between) (hstep : target ∈ next between) :
    Way next (length + 1) status target := by
  induction h with
  | refl length status => exact .head hstep (.refl length target)
  | head hfirst _ ih => exact .head hfirst (ih hstep)

/-- A way can be gone back. -/
theorem reverse (hback : ∀ status target, target ∈ next status → status ∈ back target)
    (h : Way next length status target) : Way back length target status := by
  induction h with
  | refl length status => exact .refl length status
  | head hstep _ ih => exact ih.tail (hback _ _ hstep)

theorem reflTransGen (h : Way next length status target) :
    Relation.ReflTransGen (fun status target => target ∈ next status) status target := by
  induction h with
  | refl => exact .refl
  | head hstep _ ih => exact .head hstep ih

end Way

/-- What is reached by a number of steps is what there is a way to. -/
theorem mem_reachedFrom {next : String → List String} {fuel : Nat} {reached : List String} :
    target ∈ reachedFrom next fuel reached ↔ ∃ status ∈ reached, Way next fuel status target := by
  induction fuel generalizing reached with
  | zero =>
    -- a way of one step more begins with a step from what has been reached, or is a shorter way from there
    constructor
    · intro hmem
      exact ⟨target, hmem, .refl 0 target⟩
    · rintro ⟨_, hmem, ⟨⟩⟩
      exact hmem
  | succ fuel ih =>
    rw [reachedFrom, ih]
    simp only [List.mem_eraseDups, List.mem_append, List.mem_flatMap]
    constructor
    · rintro ⟨between, hreached | ⟨status, hmem, hstep⟩, hway⟩
      · exact ⟨between, hreached, hway.mono (Nat.le_succ fuel)⟩
      · exact ⟨status, hmem, .head hstep hway⟩
    · rintro ⟨status, hmem, hway⟩
      cases hway with
      | refl => exact ⟨target, .inl hmem, .refl fuel target⟩
      | head hstep hway => exact ⟨_, .inr ⟨status, hmem, hstep⟩, hway⟩

/-- No way leads to a lower rank. -/
theorem IsProper.rank_of_reflTransGen (h : flow.IsProper) (hrank : flow.HasRank status rank)
    (hway : Relation.ReflTransGen (fun status target => target ∈ flow.steps status) status target) :
    ∃ other, flow.HasRank target other ∧ rank ≤ other := by
  induction hway with
  | refl => exact ⟨rank, hrank, Nat.le_refl _⟩
  | tail _ hstep ih =>
    obtain ⟨middle, hmiddle, hle⟩ := ih
    obtain ⟨middle', other, hmiddle', hother, hle', -⟩ := h.mem_steps.mp hstep
    obtain rfl := h.rank_unique hmiddle hmiddle'
    exact ⟨other, hother, Nat.le_trans hle hle'⟩

/-- With every step one more rank can be reached: the way leads over some status of each rank in between. -/
theorem IsProper.way_of_hasRank (h : flow.IsProper) {distance : Nat} (hrank : flow.HasRank status rank)
    (htarget : flow.HasRank target (rank + distance)) : Way flow.steps (distance + 1) status target := by
  induction distance generalizing status rank with
  | zero =>
    have hstep := h.mem_steps.mpr ⟨rank, rank, hrank, htarget, Nat.le_refl _, Nat.le_succ _⟩
    exact .head hstep (.refl 0 target)
  | succ distance ih =>
    have hlt : rank + 1 < flow.ranks.length := Nat.lt_of_le_of_lt (by omega) htarget.lt
    obtain ⟨between, hbetween⟩ := h.exists_hasRank hlt
    have hstep := h.mem_steps.mpr ⟨rank, rank + 1, hrank, hbetween, Nat.le_succ _, Nat.le_refl _⟩
    exact .head hstep (ih hbetween (by rwa [Nat.add_right_comm, Nat.add_assoc]))

/-! ### References -/

/-- A status may refer to exactly those statuses whose rank is not lower. -/
theorem IsProper.mayReference_iff (h : flow.IsProper) : flow.mayReference status target = true ↔
    ∃ rank other, flow.HasRank status rank ∧ flow.HasRank target other ∧ rank ≤ other := by
  rw [mayReference, Bool.and_eq_true, Bool.and_eq_true, contains_iff, contains_iff, List.contains_iff_mem,
    mem_reachedFrom]
  constructor
  · rintro ⟨⟨⟨rank, hrank⟩, -⟩, _, hmem, hway⟩
    obtain rfl := List.mem_singleton.mp hmem
    obtain ⟨other, hother, hle⟩ := h.rank_of_reflTransGen hrank hway.reflTransGen
    exact ⟨rank, other, hrank, hother, hle⟩
  · rintro ⟨rank, other, hrank, hother, hle⟩
    obtain ⟨distance, rfl⟩ := Nat.exists_eq_add_of_le hle
    have hlt := hother.lt
    exact ⟨⟨⟨rank, hrank⟩, _, hother⟩, status, List.mem_singleton_self _,
      (h.way_of_hasRank hrank hother).mono (by omega)⟩

/-- A status may refer to those to which there is a way, however long it is. -/
theorem IsProper.mayReference_iff_way (h : flow.IsProper) : flow.mayReference status target = true ↔
    status ∈ flow.statuses ∧ target ∈ flow.statuses ∧
      Relation.ReflTransGen (fun status target => target ∈ flow.steps status) status target := by
  have hmem : ∀ status, status ∈ flow.statuses ↔ ∃ rank, flow.HasRank status rank := fun status => by
    rw [← contains_iff, contains, decide_eq_true_eq]
  rw [h.mayReference_iff, hmem, hmem]
  constructor
  · rintro ⟨rank, other, hrank, hother, hle⟩
    obtain ⟨distance, rfl⟩ := Nat.exists_eq_add_of_le hle
    exact ⟨⟨rank, hrank⟩, ⟨_, hother⟩, (h.way_of_hasRank hrank hother).reflTransGen⟩
  · rintro ⟨⟨rank, hrank⟩, -, hway⟩
    obtain ⟨other, hother, hle⟩ := h.rank_of_reflTransGen hrank hway
    exact ⟨rank, other, hrank, hother, hle⟩

/-- A status may refer to all others in the flow but for those of lower ranks. -/
theorem IsProper.not_mayReference_iff (h : flow.IsProper) (hstatus : flow.contains status)
    (htarget : flow.contains target) : flow.mayReference status target = false ↔ flow.Precedes target status := by
  obtain ⟨rank, hrank⟩ := contains_iff.mp hstatus
  obtain ⟨other, hother⟩ := contains_iff.mp htarget
  rw [← Bool.not_eq_true, h.mayReference_iff]
  constructor
  · intro hnone
    refine ⟨other, rank, hother, hrank, Nat.lt_of_not_le fun hle => ?_⟩
    exact hnone ⟨rank, other, hrank, hother, hle⟩
  · rintro ⟨other', rank', hother', hrank', hlt⟩ ⟨rank'', other'', hrank'', hother'', hle⟩
    obtain rfl := h.rank_unique hrank' hrank''
    obtain rfl := h.rank_unique hother' hother''
    exact Nat.not_le_of_lt hlt hle

theorem IsProper.mem_stepsBack (h : flow.IsProper) : status ∈ flow.stepsBack target ↔ target ∈ flow.steps status := by
  rw [stepsBack, List.mem_filter, decide_eq_true_eq, and_iff_right_iff_imp]
  intro hstep
  obtain ⟨rank, -, hrank, -⟩ := h.mem_steps.mp hstep
  exact decide_eq_true_eq.mp (contains_iff.mpr ⟨rank, hrank⟩)

/-- The statuses from which one can be reached are found on the ways back from it. -/
theorem IsProper.mem_ancestors (h : flow.IsProper) :
    status ∈ flow.ancestors target ↔ target ∈ reachedFrom flow.steps flow.ranks.length [status] := by
  rw [ancestors, mem_reachedFrom, mem_reachedFrom]
  constructor
  · rintro ⟨_, hmem, hway⟩
    obtain rfl := List.mem_singleton.mp hmem
    exact ⟨status, List.mem_singleton_self _, hway.reverse fun _ _ => h.mem_stepsBack.mp⟩
  · rintro ⟨_, hmem, hway⟩
    obtain rfl := List.mem_singleton.mp hmem
    exact ⟨target, List.mem_singleton_self _, hway.reverse fun _ _ => h.mem_stepsBack.mpr⟩

theorem referrers_sublist (flow : StatusFlow) (target : String) : (flow.referrers target).Sublist flow.statuses := by
  rw [referrers]
  split_ifs
  · exact List.filter_sublist
  · exact List.nil_sublist _

/-- The search back from a status finds those that may refer to it. -/
theorem IsProper.referrers_eq (h : flow.IsProper) (target : String) :
    flow.referrers target = flow.statuses.filter (flow.mayReference · target) := by
  rw [referrers]
  split_ifs with htarget
  · refine List.filter_congr fun status hstatus => ?_
    have hcontains : flow.contains status = true := decide_eq_true hstatus
    rw [mayReference, hcontains, htarget, Bool.true_and, Bool.true_and, Bool.eq_iff_iff, decide_eq_true_eq,
      List.contains_iff_mem, h.mem_ancestors]
  · refine (List.filter_eq_nil_iff.mpr fun status _ hmay => htarget ?_).symm
    rw [mayReference, Bool.and_eq_true, Bool.and_eq_true] at hmay
    exact hmay.1.2

/-- The statuses that may refer to one are all but those for which its rank is too low. -/
theorem IsProper.mem_referrers_iff (h : flow.IsProper) (hstatus : flow.contains status)
    (htarget : flow.contains target) : status ∈ flow.referrers target ↔ ¬flow.Precedes target status := by
  rw [h.referrers_eq, List.mem_filter, ← h.not_mayReference_iff hstatus htarget, Bool.not_eq_false]
  exact and_iff_right (decide_eq_true_iff.mp hstatus)

/-- Ranks are taken for a flow if and only if none is empty and no status occurs twice. In the flow a status may
refer to another one, to which there is a way of any length, if and only if its rank is not higher; and the search
back from a status gives just those that may refer to it, in order and each of them once. -/
theorem reachable_iff_rank_le (ranks : List (List String)) :
    ((∃ flow, ofRanks ranks = .ok flow) ↔ (∀ group ∈ ranks, group ≠ []) ∧ ranks.flatten.Nodup) ∧
      ∀ flow, ofRanks ranks = .ok flow →
        flow.statuses = ranks.flatten ∧
        (∀ status rank, flow.rank? status = some rank ↔ ∃ group, ranks[rank]? = some group ∧ status ∈ group) ∧
        ∀ status target,
          (flow.mayReference status target = true ↔
            ∃ rank other, flow.rank? status = some rank ∧ flow.rank? target = some other ∧ rank ≤ other) ∧
          (flow.mayReference status target = true ↔ status ∈ flow.statuses ∧ target ∈ flow.statuses ∧
            Relation.ReflTransGen (fun status target => target ∈ flow.steps status) status target) ∧
          flow.referrers target = flow.statuses.filter (flow.mayReference · target) ∧
          (flow.referrers target).Nodup ∧
          (target ∉ flow.statuses → flow.referrers target = []) := by
  refine ⟨⟨?_, ?_⟩, ?_⟩
  · rintro ⟨flow, hflow⟩
    obtain ⟨rfl, hproper⟩ := isProper_of_ofRanks hflow
    exact ⟨hproper.ne_nil, hproper.nodup⟩
  · rintro ⟨hne, hnodup⟩
    exact ⟨⟨ranks⟩, ofRanks_eq_ok ⟨hne, hnodup⟩⟩
  · intro flow hflow
    obtain ⟨rfl, hproper⟩ := isProper_of_ofRanks hflow
    refine ⟨rfl, fun status rank => hproper.rank?_eq_some_iff, fun status target => ⟨?_, ?_, ?_, ?_, ?_⟩⟩
    · simp only [hproper.mayReference_iff, hproper.rank?_eq_some_iff]
    · exact hproper.mayReference_iff_way
    · exact hproper.referrers_eq target
    · exact hproper.nodup.sublist (flow.referrers_sublist target)
    · intro hunknown
      rw [referrers, contains, decide_eq_false hunknown]
      rfl

/-- A life cycle with two statuses in its first rank. -/
theorem reachable_iff_rank_le_two_first :
    let ranks := [["Draft", "Stagnant"], ["Review"], ["Last Call"], ["Final"]]
    ∃ flow, ofRanks ranks = .ok flow ∧
      flow.mayReference "Stagnant" "Final" = true ∧ ¬flow.mayReference "Final" "Review" = true ∧
      flow.referrers "Last Call" = ["Draft", "Stagnant", "Review", "Last Call"] ∧ flow.referrers "Living" = [] := by
  intro ranks
  have hflow : ofRanks ranks = .ok ⟨ranks⟩ := by decide
  obtain ⟨-, -, hmay⟩ := (reachable_iff_rank_le ranks).2 _ hflow
  refine ⟨_, hflow, (hmay _ _).1.mpr ⟨0, 3, by decide, by decide, by decide⟩, ?_, ?_,
    (hmay "Draft" "Living").2.2.2.2 (by decide)⟩
  · -- the first of the two has the higher rank
    intro hlower
    obtain ⟨rank, other, hrank, hother, hle⟩ := (hmay _ _).1.mp hlower
    have hranks : StatusFlow.rank? ⟨ranks⟩ "Final" = some 3 ∧ StatusFlow.rank? ⟨ranks⟩ "Review" = some 1 := by decide
    rw [hranks.1] at hrank
    rw [hranks.2] at hother
    obtain rfl := Option.some.inj hrank
    obtain rfl := Option.some.inj hother
    exact absurd hle (by decide)
  · rw [(hmay "Draft" "Last Call").2.2.1]
    decide +kernel

end StatusFlow

end ProposalCheck

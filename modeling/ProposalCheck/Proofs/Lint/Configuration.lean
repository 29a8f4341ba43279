import Mathlib.Data.List.Basic
import ProposalCheck.Lint.Run

/-!
# What configuration comes to

A linter may be configured in any steps, of which some are refused. What it has become is read off the
steps: which names were allowed, which levels were set last by a step that was not refused, and which
rules were registered. Once a run has started nothing changes any more.

Every field is treated alike: first what one step does to it, and from that, by induction on the steps,
what all of them do.

## Main definitions

* `Linter.IsFresh`: a linter that has not been configured
* `Linter.accepted`: the steps that are not refused
* `Linter.Step.level?`, `Linter.Step.rule?`: the level that a step sets, and the rule that it registers

## Main results

* `Linter.level_takeAll`: the level of a rule after some steps
* `Linter.map_fst_registerAll`, `Linter.lookup_registerAll`: the rules after some registrations
* `Linter.take_of_level?`: when a level is refused, and what changes then
* `Linter.takeAll_spec`: all of it, and that nothing changes once a run has started
-/

namespace ProposalCheck

namespace Linter

variable {ρ μ : Type}

/-- A linter that has not been configured. Its rules have different names. -/
structure IsFresh (linter : Linter ρ μ) : Prop where
  allowed : linter.allowed = []
  levels : linter.levels = []
  phase : linter.phase = .idle
  names : (linter.rules.map (·.1)).Nodup

namespace Step

/-- The level that a step sets for a name. -/
def level? (name : String) : Step ρ μ → Option Level
  | .warn other => if other = name then some .warn else none
  | .deny other => if other = name then some .deny else none
  | _ => none

/-- The rule that a step registers. -/
def rule? : Step ρ μ → Option (String × ρ)
  | .addRule name rule => some (name, rule)
  | _ => none

end Step

/-- The steps that are not refused, when steps are taken whatever becomes of each. -/
def accepted : Linter ρ μ → List (Step ρ μ) → List (Step ρ μ)
  | _, [] => []
  | linter, step :: rest =>
    match linter.take step with
    | (linter, none) => step :: linter.accepted rest
    | (linter, some _) => linter.accepted rest

/-- The rules after some registrations. -/
def registerAll (rules added : List (String × ρ)) : List (String × ρ) :=
  added.foldl (fun rules entry => register entry.1 entry.2 rules) rules

/-! ### Registering rules -/

theorem map_fst_register (name : String) (rule : ρ) (rules : List (String × ρ)) :
    (register name rule rules).map (·.1) =
      if name ∈ rules.map (·.1) then rules.map (·.1) else rules.map (·.1) ++ [name] := by
  induction rules with
  | nil => rfl
  | cons entry rest ih =>
    obtain ⟨other, old⟩ := entry
    by_cases h : other = name
    · simp [register, h]
    · rw [register, if_neg h, List.map_cons, ih]
      have hother : name ≠ other := fun heq => h heq.symm
      split <;> simp_all

theorem lookup_cons_eq (entry : String × ρ) (rules : List (String × ρ)) (name : String) :
    (entry :: rules).lookup name = if name = entry.1 then some entry.2 else rules.lookup name := by
  by_cases h : name = entry.1
  · rw [if_pos h, h]
    exact List.lookup_cons_self
  · rw [if_neg h, List.lookup_cons, beq_false_of_ne h]

theorem lookup_register (name : String) (rule : ρ) (rules : List (String × ρ)) (other : String) :
    (register name rule rules).lookup other =
      if other = name then some rule else rules.lookup other := by
  induction rules with
  | nil => exact lookup_cons_eq ..
  | cons entry rest ih =>
    obtain ⟨first, old⟩ := entry
    rw [register]
    by_cases h : first = name
    · rw [if_pos h, lookup_cons_eq, lookup_cons_eq, h]
      split <;> rfl
    · rw [if_neg h, lookup_cons_eq, lookup_cons_eq, ih]
      by_cases hother : other = first
      · simp [hother, h]
      · simp [hother]

theorem nodup_map_fst_register (name : String) (rule : ρ) {rules : List (String × ρ)}
    (h : (rules.map (·.1)).Nodup) : ((register name rule rules).map (·.1)).Nodup := by
  rw [map_fst_register]
  split
  · exact h
  case isFalse hname =>
    rw [List.nodup_append]
    refine ⟨h, List.pairwise_singleton _ _, fun other hother last hlast heq => hname ?_⟩
    rwa [← List.mem_singleton.mp hlast, ← heq]

theorem eraseDups_of_nodup {names : List String} (h : names.Nodup) : names.eraseDups = names := by
  induction names with
  | nil => rfl
  | cons name rest ih =>
    obtain ⟨hname, hrest⟩ := List.nodup_cons.mp h
    have hfilter : rest.filter (fun other => !other == name) = rest :=
      List.filter_eq_self.mpr fun other hother => by
        simp only [Bool.not_eq_true', beq_eq_false_iff_ne]
        rintro rfl
        exact hname hother
    rw [List.eraseDups_cons, hfilter, ih hrest]

theorem nodup_map_fst_registerAll {rules : List (String × ρ)} (h : (rules.map (·.1)).Nodup)
    (added : List (String × ρ)) : ((registerAll rules added).map (·.1)).Nodup := by
  induction added generalizing rules with
  | nil => exact h
  | cons entry rest ih => exact ih (nodup_map_fst_register _ _ h)

/-- The names of rules stand in the order in which they were registered first. -/
theorem map_fst_registerAll {rules : List (String × ρ)} (h : (rules.map (·.1)).Nodup)
    (added : List (String × ρ)) :
    (registerAll rules added).map (·.1) = ((rules ++ added).map (·.1)).eraseDups := by
  induction added generalizing rules with
  | nil => rw [List.append_nil, eraseDups_of_nodup h]; rfl
  | cons entry rest ih =>
    have hrest := ih (nodup_map_fst_register entry.1 entry.2 h)
    rw [registerAll, List.foldl_cons, ← registerAll, hrest, List.map_append, List.map_append,
      map_fst_register, List.map_cons]
    -- A name that is there already keeps its place, so the later one is dropped.
    split
    case isTrue hmem => simp [List.eraseDups_append, List.cons_removeAll, hmem]
    case isFalse => rw [List.append_assoc, List.singleton_append]

/-- The rule of a name is the one that was registered last. -/
theorem lookup_registerAll (rules added : List (String × ρ)) (name : String) :
    (registerAll rules added).lookup name = (added.reverse.lookup name).or (rules.lookup name) := by
  induction added generalizing rules with
  | nil => rfl
  | cons entry rest ih =>
    rw [registerAll, List.foldl_cons, ← registerAll, ih, lookup_register, List.reverse_cons,
      List.lookup_append, Option.or_assoc, lookup_cons_eq]
    by_cases h : name = entry.1 <;> simp [h]

theorem isRegistered_iff {linter : Linter ρ μ} {name : String} :
    linter.isRegistered name ↔ name ∈ linter.rules.map (·.1) := by
  simp [isRegistered]

theorem enabled_eq (linter : Linter ρ μ) : linter.enabled =
    (linter.rules.filter fun entry => linter.level entry.1 ≠ .allow).map
      fun entry => (entry.1, entry.2, linter.level entry.1) := by
  rw [enabled, List.filter_map]
  rfl

theorem map_fst_enabled (linter : Linter ρ μ) :
    linter.enabled.map (·.1) = (linter.rules.map (·.1)).filter (linter.level · ≠ .allow) := by
  rw [enabled_eq, List.map_map, List.filter_map]
  rfl

/-- Rules with different names are looked up by their names. -/
theorem lookup_of_mem {rules : List (String × ρ)} (hrules : (rules.map (·.1)).Nodup) {name : String}
    {rule : ρ} (h : (name, rule) ∈ rules) : rules.lookup name = some rule := by
  obtain ⟨before, after, rfl⟩ := List.append_of_mem h
  rw [List.map_append, List.map_cons, List.nodup_append] at hrules
  refine List.lookup_eq_some_iff.mpr ⟨before, after, rfl, fun entry hentry => ?_⟩
  have hne := hrules.2.2 entry.1 (List.mem_map_of_mem hentry) name List.mem_cons_self
  exact bne_iff_ne.mpr hne.symm

/-! ### One step -/

section Step

variable {linter : Linter ρ μ}

theorem isOpen_iff : linter.isOpen ↔ linter.phase = .idle ∨ linter.phase = .configured := by
  simp [isOpen]

/-- A linter whose run has started takes no step. -/
theorem take_of_not_isOpen (h : ¬ linter.isOpen) (step : Step ρ μ) :
    linter.take step = (linter, some (.busy linter.phase)) := by
  simp [take, h]

/-- What an open linter makes of a step, with every field in its place. -/
theorem take_of_isOpen (h : linter.isOpen) (step : Step ρ μ) :
    linter.take step = match step with
      | .allow name => ({ linter with phase := .configured, allowed := name :: linter.allowed }, none)
      | .warn name => { linter with phase := .configured }.setLevel name .warn
      | .deny name => { linter with phase := .configured }.setLevel name .deny
      | .addRule name rule =>
        ({ linter with phase := .configured, rules := register name rule linter.rules }, none)
      | .addModifier modifier =>
        ({ linter with phase := .configured, modifiers := linter.modifiers ++ [modifier] }, none)
      | .setSource source => ({ linter with phase := .configured, source }, none)
      | .queue document =>
        ({ linter with phase := .configured, queue := linter.queue ++ [document] }, none) := by
  cases step <;> simp [take, h]

/-- Setting a level changes the levels at most, and is refused unless the rule is registered. -/
theorem setLevel_eq (linter : Linter ρ μ) (name : String) (level : Level) :
    linter.setLevel name level =
      ({ linter with
          levels := if linter.isRegistered name then (name, level) :: linter.levels else linter.levels },
        if linter.isRegistered name then none else some (.unknownRule name linter.available)) := by
  rw [setLevel]
  split <;> rfl

theorem isOpen_take (h : linter.isOpen) (step : Step ρ μ) : (linter.take step).1.isOpen := by
  rw [take_of_isOpen h]
  cases step <;> simp [setLevel_eq, isOpen]

theorem mem_allowed_take (h : linter.isOpen) (step : Step ρ μ) (name : String) :
    name ∈ (linter.take step).1.allowed ↔ step = .allow name ∨ name ∈ linter.allowed := by
  rw [take_of_isOpen h]
  cases step with
  | allow other => simp [eq_comm]
  | _ => simp [setLevel_eq]

theorem rules_take (h : linter.isOpen) (step : Step ρ μ) :
    (linter.take step).1.rules = registerAll linter.rules step.rule?.toList := by
  rw [take_of_isOpen h]
  cases step <;> simp [setLevel_eq, registerAll, Step.rule?]

/-- A step that sets a level is refused if the rule is not registered, and then sets no level. -/
theorem take_of_level? (h : linter.isOpen) {step : Step ρ μ} {name : String} {level : Level}
    (hstep : step.level? name = some level) :
    linter.take step =
      ({ linter with
          phase := .configured
          levels := if linter.isRegistered name then (name, level) :: linter.levels else linter.levels },
        if linter.isRegistered name then none else some (.unknownRule name linter.available)) := by
  rw [take_of_isOpen h]
  cases step with
  | warn other | deny other =>
    simp only [Step.level?, Option.ite_none_right_eq_some, Option.some.injEq] at hstep
    obtain ⟨rfl, rfl⟩ := hstep
    exact setLevel_eq ..
  | _ => simp [Step.level?] at hstep

theorem lookup_levels_setLevel (linter : Linter ρ μ) (other : String) (level : Level) (name : String) :
    (linter.setLevel other level).1.levels.lookup name =
      (if (linter.setLevel other level).2.isNone then if other = name then some level else none
        else none).or (linter.levels.lookup name) := by
  rw [setLevel]
  split
  · rw [lookup_cons_eq]
    by_cases h : other = name
    · simp [h]
    · simp [h, Ne.symm h]
  · rfl

/-- The last level that was set is that of the step, if the step sets one and is not refused. -/
theorem lookup_levels_take (h : linter.isOpen) (step : Step ρ μ) (name : String) :
    (linter.take step).1.levels.lookup name =
      (if (linter.take step).2.isNone then step.level? name else none).or
        (linter.levels.lookup name) := by
  rw [take_of_isOpen h]
  cases step with
  | warn other | deny other => exact lookup_levels_setLevel ..
  | _ => rfl

/-- No step sets the level of a rule that is allowed. -/
theorem Step.level?_ne_allow (step : Step ρ μ) (name : String) : step.level? name ≠ some .allow := by
  cases step <;> simp [level?]

theorem IsFresh.isOpen (h : linter.IsFresh) : linter.isOpen := isOpen_iff.mpr (.inl h.phase)

end Step

/-! ### All steps -/

section Steps

variable {linter : Linter ρ μ}

theorem takeAll_cons (linter : Linter ρ μ) (step : Step ρ μ) (steps : List (Step ρ μ)) :
    linter.takeAll (step :: steps) = (linter.take step).1.takeAll steps := rfl

theorem accepted_cons (linter : Linter ρ μ) (step : Step ρ μ) (steps : List (Step ρ μ)) :
    linter.accepted (step :: steps) =
      (if (linter.take step).2.isNone then [step] else []) ++ (linter.take step).1.accepted steps := by
  rw [accepted]
  rcases linter.take step with ⟨next, _ | error⟩ <;> rfl

theorem isOpen_takeAll (h : linter.isOpen) (steps : List (Step ρ μ)) :
    (linter.takeAll steps).isOpen := by
  induction steps generalizing linter with
  | nil => exact h
  | cons step rest ih => exact ih (isOpen_take h step)

/-- Once a run has started, steps change nothing. -/
theorem takeAll_of_not_isOpen (h : ¬ linter.isOpen) (steps : List (Step ρ μ)) :
    linter.takeAll steps = linter := by
  induction steps with
  | nil => rfl
  | cons step rest ih => rw [takeAll_cons, take_of_not_isOpen h, ih]

theorem mem_allowed_takeAll (h : linter.isOpen) (steps : List (Step ρ μ)) (name : String) :
    name ∈ (linter.takeAll steps).allowed ↔ .allow name ∈ steps ∨ name ∈ linter.allowed := by
  induction steps generalizing linter with
  | nil => simp [takeAll]
  | cons step rest ih =>
    rw [takeAll_cons, ih (isOpen_take h step), mem_allowed_take h, List.mem_cons, eq_comm]
    tauto

theorem rules_takeAll (h : linter.isOpen) (steps : List (Step ρ μ)) :
    (linter.takeAll steps).rules = registerAll linter.rules (steps.filterMap Step.rule?) := by
  induction steps generalizing linter with
  | nil => rfl
  | cons step rest ih =>
    rw [takeAll_cons, ih (isOpen_take h step), rules_take h]
    cases hrule : step.rule? <;> simp [registerAll, hrule]

/-- The level that counts is the last one set by a step that was not refused. -/
theorem lookup_levels_takeAll (h : linter.isOpen) (steps : List (Step ρ μ)) (name : String) :
    (linter.takeAll steps).levels.lookup name =
      ((linter.accepted steps).filterMap (·.level? name)).getLast?.or (linter.levels.lookup name) := by
  induction steps generalizing linter with
  | nil => rfl
  | cons step rest ih =>
    rw [takeAll_cons, ih (isOpen_take h step), lookup_levels_take h, accepted_cons,
      List.filterMap_append, List.getLast?_append, Option.or_assoc]
    -- Later steps are the same on both sides; only the first one is left.
    congr 2
    split
    · cases hlevel : step.level? name <;> simp [hlevel]
    · rfl

/-- A rule is allowed if a step has allowed it, and else has the level that was set last. -/
theorem level_takeAll (hfresh : linter.IsFresh) (steps : List (Step ρ μ)) (name : String) :
    ((linter.takeAll steps).level name = .allow ↔ .allow name ∈ steps) ∧
      (.allow name ∉ steps → (linter.takeAll steps).level name =
        ((linter.accepted steps).filterMap (·.level? name)).getLast?.getD .deny) := by
  have hopen := hfresh.isOpen
  have hallowed := mem_allowed_takeAll hopen steps name
  have hlevel := lookup_levels_takeAll hopen steps name
  simp only [hfresh.allowed, List.not_mem_nil, or_false] at hallowed
  simp only [hfresh.levels, List.lookup_nil, Option.or_none] at hlevel
  by_cases h : .allow name ∈ steps
  · have hcontains : (linter.takeAll steps).allowed.contains name :=
      List.contains_iff_mem.mpr (hallowed.mpr h)
    exact ⟨iff_of_true (by rw [level, if_pos hcontains]) h, fun hnot => absurd h hnot⟩
  · have hcontains : ¬ (linter.takeAll steps).allowed.contains name :=
      fun hcontains => h (hallowed.mp (List.contains_iff_mem.mp hcontains))
    rw [level, if_neg hcontains, hlevel]
    refine ⟨iff_of_false (fun hallow => ?_) h, fun _ => rfl⟩
    -- No step sets the level that allowing a rule gives it.
    cases hlast : ((linter.accepted steps).filterMap (·.level? name)).getLast? with
    | none => simp [hlast] at hallow
    | some last =>
      obtain ⟨step, -, hstep⟩ := List.mem_filterMap.mp (List.mem_of_getLast? hlast)
      rw [hlast, Option.getD_some] at hallow
      exact step.level?_ne_allow name (hstep.trans (congrArg some hallow))

/-- The rules that will run, each once and in the order in which the names were registered first, each
as it was registered last. -/
theorem enabled_takeAll (hfresh : linter.IsFresh) (steps : List (Step ρ μ)) :
    let now := linter.takeAll steps
    let added := steps.filterMap Step.rule?
    now.enabled.map (·.1) =
        ((linter.rules ++ added).map (·.1)).eraseDups.filter (now.level · ≠ .allow) ∧
      (now.enabled.map (·.1)).Nodup ∧
      ∀ name rule level, (name, rule, level) ∈ now.enabled →
        (added.reverse.lookup name).or (linter.rules.lookup name) = some rule ∧
          level = now.level name := by
  intro now added
  have hrules : now.rules = registerAll linter.rules added := rules_takeAll hfresh.isOpen steps
  have hnodup : (now.rules.map (·.1)).Nodup := hrules ▸ nodup_map_fst_registerAll hfresh.names added
  rw [map_fst_enabled]
  refine ⟨?_, hnodup.filter _, fun name rule level hmem => ?_⟩
  · rw [hrules, map_fst_registerAll hfresh.names]
  · -- a name is on the list once, so looking it up finds its entry
    rw [enabled_eq] at hmem
    obtain ⟨entry, hentry, heq⟩ := List.mem_map.mp hmem
    obtain ⟨rfl, rfl, rfl⟩ : entry.1 = name ∧ entry.2 = rule ∧ now.level entry.1 = level := by
      simpa using heq
    rw [← lookup_registerAll, ← hrules]
    exact ⟨lookup_of_mem hnodup (List.mem_filter.mp hentry).1, rfl⟩

/-- A level is refused exactly if the name has not been registered, and then only the phase changes. -/
theorem take_level_takeAll (hfresh : linter.IsFresh) (steps : List (Step ρ μ)) {step : Step ρ μ}
    {name : String} {level : Level} (hstep : step.level? name = some level) :
    let now := linter.takeAll steps
    let registered := (linter.rules ++ steps.filterMap Step.rule?).map (·.1)
    (name ∈ registered → (now.take step).2 = none) ∧
      (name ∉ registered → now.take step =
        ({ now with phase := .configured }, some (.unknownRule name now.available))) := by
  intro now registered
  have hregistered : now.isRegistered name ↔ name ∈ registered := by
    rw [isRegistered_iff, rules_takeAll hfresh.isOpen, map_fst_registerAll hfresh.names,
      List.mem_eraseDups]
  rw [take_of_level? (isOpen_takeAll hfresh.isOpen steps) hstep]
  constructor
  · intro hmem
    exact if_pos (hregistered.mpr hmem)
  · intro hmem
    have hnot : ¬ now.isRegistered name := fun h => hmem (hregistered.mp h)
    rw [if_neg hnot, if_neg hnot]

end Steps

/-! ### Runs -/

section Runs

variable {σ ε : Type} {linter : Linter ρ μ}

theorem start_of_isOpen (h : linter.isOpen) : linter.start = .ok { linter with phase := .running } := by
  rw [start, if_pos h]

variable [Modifier μ]

theorem run_of_isOpen (h : linter.isOpen) (check : Checker ρ) (reporter : Reporter σ ε) (state : σ) :
    ∃ outcome, linter.run check reporter state = .ok outcome ∧
      outcome.linter = { linter with phase := .done } := by
  exact ⟨_, by rw [run, start_of_isOpen h]; rfl, rfl⟩

/-- Once a run has started no further run starts. -/
theorem run_of_not_isOpen (h : ¬ linter.isOpen) (check : Checker ρ) (reporter : Reporter σ ε)
    (state : σ) : linter.run check reporter state = .error .alreadyRun := by
  rw [run, start, if_neg h]
  rfl

/-- After any steps, of which some may be refused, a linter that was fresh has the levels that its steps
ask for and runs the rules that they register. It refuses levels for rules that are not registered,
and else changes nothing but the phase. During a run and after it every step and every run is refused,
and nothing changes. -/
theorem takeAll_spec (hfresh : linter.IsFresh) (steps : List (Step ρ μ)) :
    let now := linter.takeAll steps
    let added := steps.filterMap Step.rule?
    let registered := (linter.rules ++ added).map (·.1)
    (∀ name, (now.level name = .allow ↔ .allow name ∈ steps) ∧
      (.allow name ∉ steps → now.level name =
        ((linter.accepted steps).filterMap (·.level? name)).getLast?.getD .deny)) ∧
    (now.enabled.map (·.1) = registered.eraseDups.filter (now.level · ≠ .allow) ∧
      (now.enabled.map (·.1)).Nodup ∧
      ∀ name rule level, (name, rule, level) ∈ now.enabled →
        (added.reverse.lookup name).or (linter.rules.lookup name) = some rule ∧
          level = now.level name) ∧
    (∀ step name level, step.level? name = some level →
      (name ∈ registered → (now.take step).2 = none) ∧
      (name ∉ registered → now.take step =
        ({ now with phase := .configured }, some (.unknownRule name now.available)))) ∧
    now.start = .ok { now with phase := .running } ∧
    (∀ (check : Checker ρ) (reporter : Reporter σ ε) state, ∃ outcome,
      now.run check reporter state = .ok outcome ∧ outcome.linter = { now with phase := .done }) ∧
    ∀ phase ∈ [Phase.running, Phase.done],
      let started := { now with phase }
      (∀ step, started.take step = (started, some (.busy phase))) ∧
      (∀ others, started.takeAll others = started) ∧
      ∀ (check : Checker ρ) (reporter : Reporter σ ε) state,
        started.run check reporter state = .error .alreadyRun := by
  intro now added registered
  have hopen : now.isOpen := isOpen_takeAll hfresh.isOpen steps
  refine ⟨level_takeAll hfresh steps, enabled_takeAll hfresh steps,
    fun step name level => take_level_takeAll hfresh steps, start_of_isOpen hopen,
    run_of_isOpen hopen, fun phase hphase => ?_⟩
  intro started
  -- a linter that has been started takes no steps
  have hstarted : ¬ started.isOpen := by
    rw [isOpen_iff]
    rintro (h | h) <;> rw [show phase = _ from h] at hphase <;> simp at hphase
  exact ⟨take_of_not_isOpen hstarted, takeAll_of_not_isOpen hstarted, run_of_not_isOpen hstarted⟩

/-- A warning that comes too early is refused; later ones are not, and a rule that is registered again
keeps its place. -/
theorem takeAll_spec_of_steps :
    let linter : Linter String := { rules := [("a", "old")], modifiers := [], source := fun _ => .late }
    let steps : List (Step String) :=
      [.warn "b", .addRule "b" "other", .warn "b", .addRule "a" "new", .allow "c"]
    let now := linter.takeAll steps
    linter.IsFresh ∧ now.level "c" = .allow ∧ now.level "b" = .warn ∧
      now.enabled.map (·.1) = ["a", "b"] ∧
      now.take (.deny "c") =
        ({ now with phase := .configured }, some (.unknownRule "c" now.available)) ∧
      { now with phase := .done }.take (.queue (.path "a.md")) =
        ({ now with phase := .done }, some (.busy .done)) := by
  intro linter steps now
  have hfresh : linter.IsFresh := ⟨rfl, rfl, rfl, by decide⟩
  obtain ⟨hlevel, ⟨hnames, -, -⟩, hrefused, -, -, hdone⟩ :=
    linter.takeAll_spec (σ := Unit) (ε := Empty) hfresh steps
  refine ⟨hfresh, (hlevel "c").1.mpr ?_, ((hlevel "b").2 ?_).trans (by decide), hnames.trans (by decide),
    (hrefused (.deny "c") "c" .deny rfl).2 (by decide), (hdone .done (by decide)).1 _⟩
  all_goals simp [steps]

end Runs

end Linter

end ProposalCheck

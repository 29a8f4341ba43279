import ProposalCheck.Proofs.Diagnostic.Exchange
import ProposalCheck.Rule.Exchange

/-!
# Rules that are written and read again

A rule can be read if and only if all its patterns can be read, all its flows are flows, and its least length is not
above its greatest. Such a rule is written under the name of its kind with every parameter under the name by which it
is read first, so that the same rule is read again.

## Main definitions

* `IsPattern`, `IsFlow`: written patterns and ranks of statuses that can be read
* `Rule.IsSound`: a rule whose patterns, flows and bounds can be read

## Main results

* `Rule.kind_of_read`: what is read under a kind is a rule of that kind
* `Rule.isSound_of_ofJson`: rules that were read are sound
* `Rule.IsSound.ofJson_toJson`: sound rules are read back
* `Rule.isSound_iff`: so the sound rules are those that can be read
-/

namespace ProposalCheck

/-- A written pattern that can be read. -/
def IsPattern (written : String) : Prop := ∃ pattern, Pattern.parse {} written = .ok pattern

/-- Ranks of statuses that form a flow. -/
def IsFlow (ranks : List (List String)) : Prop := ∃ flow, StatusFlow.ofRanks ranks = .ok flow

open Checked Shape

/-! ### Parameters -/

namespace Shape

variable {value : Json}

theorem text_eq_ok_iff {s : String} : text value = .ok s ↔ value = .str s := by
  cases value <;> simp [text, fail]

theorem pattern_eq_ok_iff {written : String} :
    pattern value = .ok written ↔ value = .str written ∧ IsPattern written := by
  rw [pattern, ensure_eq_ok_iff, text_eq_ok_iff, IsPattern]
  refine and_congr_right fun _ => ?_
  rcases Pattern.parse {} written with (_ | _) | parsed <;> simp

/-- A list of patterns is told the problem of the first that cannot be read, so there is none if all can be. -/
theorem patterns_eq_ok_iff {all : List String} :
    patterns value = .ok all ↔ texts value = .ok all ∧ ∀ written ∈ all, IsPattern written := by
  rw [patterns, ensure_eq_ok_iff, List.findSome?_eq_none_iff, texts]
  refine and_congr_right fun _ => forall₂_congr fun written _ => ?_
  rw [pattern, text_str, ensure, IsPattern]
  rcases Pattern.parse {} written with (_ | _) | parsed <;> simp [fail]

theorem flow_eq_ok_iff {ranks : List (List String)} :
    flow value = .ok ranks ↔ listOf (listOf text) value = .ok ranks ∧ IsFlow ranks := by
  rw [flow, ensure_eq_ok_iff, IsFlow]
  refine and_congr_right fun _ => ?_
  cases StatusFlow.ofRanks ranks <;> simp

@[simp] theorem texts_textsJson (all : List String) : texts (Rule.textsJson all) = .ok all :=
  listOf_map fun s _ => text_str s

theorem listOf_text_flowJson (ranks : List (List String)) : listOf (listOf text) (Rule.flowJson ranks) = .ok ranks :=
  listOf_map fun all _ => texts_textsJson all

@[simp] theorem natural_boundJson (bound : Option Nat) : nullable natural (Rule.boundJson bound) = .ok bound := by
  cases bound with
  | none => rfl
  | some n =>
    have hsign : ¬(n : Int) < 0 := by omega
    simp [Rule.boundJson, Json.ofNat, nullable, natural, hsign, Except.map]

@[simp] theorem mode_name (mode : PatternMode) : Shape.mode (.str mode.name) = .ok mode := by
  cases mode <;> rfl

theorem listOf_pairOf_textsJson (pairs : List (String × String)) :
    listOf (pairOf text text) (.arr (pairs.map fun (uri, schema) => Rule.textsJson [uri, schema])) = .ok pairs := by
  refine listOf_map ?_
  rintro ⟨uri, schema⟩ -
  simp [Rule.textsJson, pairOf, within, both]

end Shape

namespace Rule

/-- The patterns that are written in a rule. -/
def patterns : Rule → List String
  | .valuePattern rule => [rule.pattern]
  | .linkFirst rule => [rule.pattern]
  | .bodyPattern rule => [rule.pattern]
  | .relativeLink rule => rule.exceptions
  | _ => []

/-- The ranks of statuses that are written in a rule. -/
def flows : Rule → List (List (List String))
  | .requiresStatus rule => [rule.flow]
  | .linkStatus rule => [rule.flow]
  | _ => []

/-- All patterns of a rule can be read, all its flows are flows, and its bounds are in order. -/
structure IsSound (rule : Rule) : Prop where
  patterns : ∀ written ∈ rule.patterns, IsPattern written
  flows : ∀ ranks ∈ rule.flows, IsFlow ranks
  bounds : boundsProblem rule = none

variable {members : Members} {kind : String} {reading : Reading} {rule : Rule}

/-- What is read under a kind is a rule of that kind. -/
theorem kind_of_read (h : reading? members kind = some reading) {others : Members}
    (hread : reading.read others = .ok rule) : rule.kind = kind := by
  unfold reading? at h
  split at h <;> cases h
  -- for each kind, whatever its reading takes from the members, it makes a rule of that kind of it
  all_goals
    revert hread
    simp only [named, bare, map_eq_ok_iff, map2_eq_ok_iff, map3_eq_ok_iff, map4_eq_ok_iff, map5_eq_ok_iff,
      Except.ok.injEq, forall_exists_index, and_imp]
    intros
    subst_vars
    rfl

/-- What it takes for a rule to be read from an object: the object names the kind of the rule and has no parameter that
the kind has not. -/
theorem ofJson_eq_ok_iff : ofJson (.obj members) = .ok rule ↔
    ∃ reading, Json.lookup "kind" members = some (.str rule.kind) ∧ reading? members rule.kind = some reading ∧
      reading.read members = .ok rule ∧ unknownMembers ("kind" :: reading.parameters) members = [] ∧
      boundsProblem rule = none := by
  rw [ofJson]
  constructor
  · intro h
    split at h
    · cases h
    · rename_i kind hkind
      cases hreading : reading? members kind with
      | none => simp [hreading, fail] at h
      | some reading =>
        simp only [hreading, within_eq_ok_iff, ensure_eq_ok_iff, alsoCheck_eq_ok_iff] at h
        obtain ⟨⟨hread, hunknown⟩, hbounds⟩ := h
        -- what is read by the parameters of a kind is a rule of that kind
        obtain rfl := kind_of_read hreading hread
        exact ⟨reading, hkind, hreading, hread, hunknown, hbounds⟩
    · cases h
  · rintro ⟨reading, hkind, hreading, hread, hunknown, hbounds⟩
    simp only [hkind, hreading, within_eq_ok_iff, ensure_eq_ok_iff, alsoCheck_eq_ok_iff]
    exact ⟨⟨hread, hunknown⟩, hbounds⟩

/-! ### What is read is sound -/

theorem isPattern_of_required {name written : String} (h : members.required name pattern = .ok written) :
    ∀ other ∈ [written], IsPattern other := by
  obtain ⟨value, -, hvalue⟩ := required_eq_ok_iff.mp h
  exact List.forall_mem_singleton.mpr (pattern_eq_ok_iff.mp hvalue).2

theorem isFlow_of_required {name : String} {ranks : List (List String)} (h : members.required name flow = .ok ranks) :
    ∀ other ∈ [ranks], IsFlow other := by
  obtain ⟨value, -, hvalue⟩ := required_eq_ok_iff.mp h
  exact List.forall_mem_singleton.mpr (flow_eq_ok_iff.mp hvalue).2

theorem isPattern_of_read (h : reading? members rule.kind = some reading) (hread : reading.read members = .ok rule) :
    ∀ written ∈ rule.patterns, IsPattern written := by
  -- only four kinds have patterns, and each of them reads its own
  cases rule with
  | valuePattern rule =>
    cases h
    obtain ⟨_, _, _, _, -, -, hpattern, -, heq⟩ := map4_eq_ok_iff.mp hread
    cases heq
    exact isPattern_of_required hpattern
  | linkFirst rule =>
    cases h
    obtain ⟨_, hpattern, heq⟩ := map_eq_ok_iff.mp hread
    cases heq
    exact isPattern_of_required hpattern
  | bodyPattern rule =>
    cases h
    obtain ⟨_, _, _, -, hpattern, -, heq⟩ := map3_eq_ok_iff.mp hread
    cases heq
    exact isPattern_of_required hpattern
  | relativeLink rule =>
    cases h
    obtain ⟨_, hpatterns, heq⟩ := map_eq_ok_iff.mp hread
    cases heq
    rcases optional_eq_ok_iff.mp hpatterns with ⟨-, rfl⟩ | ⟨value, -, hvalue⟩
    · exact List.forall_mem_nil _
    · exact (patterns_eq_ok_iff.mp hvalue).2
  | _ => exact List.forall_mem_nil _

theorem isFlow_of_read (h : reading? members rule.kind = some reading) (hread : reading.read members = .ok rule) :
    ∀ ranks ∈ rule.flows, IsFlow ranks := by
  cases rule with
  | requiresStatus rule =>
    cases h
    obtain ⟨_, _, _, _, _, -, -, hflow, -, -, heq⟩ := map5_eq_ok_iff.mp hread
    cases heq
    exact isFlow_of_required hflow
  | linkStatus rule =>
    cases h
    obtain ⟨_, _, _, _, -, hflow, -, -, heq⟩ := map4_eq_ok_iff.mp hread
    cases heq
    exact isFlow_of_required hflow
  | _ => exact List.forall_mem_nil _

theorem isSound_of_ofJson {data : Json} (h : ofJson data = .ok rule) : rule.IsSound := by
  cases data with
  | obj members =>
    obtain ⟨reading, -, hreading, hread, -, hbounds⟩ := ofJson_eq_ok_iff.mp h
    exact ⟨isPattern_of_read hreading hread, isFlow_of_read hreading hread, hbounds⟩
  | null | bool _ | int _ | float _ | str _ | arr _ => cases h

/-! ### What is sound is read back -/

theorem required_text {name s : String} (h : Json.lookup name members = some (.str s)) :
    members.required name text = .ok s := required_of_lookup h (text_str s)

theorem required_texts {name : String} {all : List String} (h : Json.lookup name members = some (textsJson all)) :
    members.required name texts = .ok all := required_of_lookup h (texts_textsJson all)

theorem required_pattern {name written : String} (h : Json.lookup name members = some (.str written))
    (hpattern : IsPattern written) : members.required name pattern = .ok written :=
  required_of_lookup h (pattern_eq_ok_iff.mpr ⟨rfl, hpattern⟩)

theorem required_flow {name : String} {ranks : List (List String)}
    (h : Json.lookup name members = some (flowJson ranks)) (hflow : IsFlow ranks) :
    members.required name flow = .ok ranks :=
  required_of_lookup h (flow_eq_ok_iff.mpr ⟨listOf_text_flowJson ranks, hflow⟩)

/-- Everything that a rule is written with is read by its kind, and nothing else is written. -/
theorem IsSound.exists_reading (h : rule.IsSound) :
    ∃ reading, reading? (("kind", .str rule.kind) :: rule.parameters) rule.kind = some reading ∧
      reading.read (("kind", .str rule.kind) :: rule.parameters) = .ok rule ∧
      unknownMembers ("kind" :: reading.parameters) (("kind", .str rule.kind) :: rule.parameters) = [] := by
  -- texts are read back by computation; lists, patterns, flows and bounds need what is known of their readers
  cases rule with
  | author | date | list | uint | uintList | address | fileName | valueReference | requireReferenced | requiredIf
  | linkText | noDuplicates | trim | headingSpace => exact ⟨_, rfl, rfl, rfl⟩
  | order | required | sectionOrder | sectionRequired =>
    exact ⟨_, rfl, map_eq_ok_iff.mpr ⟨_, required_texts rfl, rfl⟩, rfl⟩
  | oneOf | comment =>
    exact ⟨_, rfl, map2_eq_ok_iff.mpr ⟨_, _, required_text rfl, required_texts rfl, rfl⟩, rfl⟩
  | length rule =>
    have hmin : optional (parameters (.length rule)) "min" none (nullable natural) = .ok rule.min :=
      optional_of_lookup rfl (natural_boundJson rule.min)
    have hmax : optional (parameters (.length rule)) "max" none (nullable natural) = .ok rule.max :=
      optional_of_lookup rfl (natural_boundJson rule.max)
    exact ⟨_, rfl, map3_eq_ok_iff.mpr ⟨_, _, _, required_text rfl, hmin, hmax, rfl⟩, rfl⟩
  | valuePattern rule =>
    have hpattern : IsPattern rule.pattern := h.patterns _ List.mem_cons_self
    exact ⟨_, rfl, map4_eq_ok_iff.mpr ⟨_, _, _, _, required_text rfl, required_of_lookup rfl (mode_name rule.mode),
      required_pattern rfl hpattern, required_text rfl, rfl⟩, rfl⟩
  | linkFirst rule =>
    have hpattern : IsPattern rule.pattern := h.patterns _ List.mem_cons_self
    exact ⟨_, rfl, map_eq_ok_iff.mpr ⟨_, required_pattern rfl hpattern, rfl⟩, rfl⟩
  | bodyPattern rule =>
    have hpattern : IsPattern rule.pattern := h.patterns _ List.mem_cons_self
    exact ⟨_, rfl, map3_eq_ok_iff.mpr ⟨_, _, _, required_of_lookup rfl (mode_name rule.mode),
      required_pattern rfl hpattern, required_text rfl, rfl⟩, rfl⟩
  | relativeLink rule =>
    have hexceptions : Shape.patterns (textsJson rule.exceptions) = .ok rule.exceptions :=
      patterns_eq_ok_iff.mpr ⟨texts_textsJson _, h.patterns⟩
    exact ⟨_, rfl, map_eq_ok_iff.mpr ⟨_, optional_of_lookup rfl hexceptions, rfl⟩, rfl⟩
  | requiresStatus rule =>
    have hflow : IsFlow rule.flow := h.flows _ List.mem_cons_self
    exact ⟨_, rfl, map5_eq_ok_iff.mpr ⟨_, _, _, _, _, required_text rfl, required_text rfl, required_flow rfl hflow,
      required_text rfl, required_text rfl, rfl⟩, rfl⟩
  | linkStatus rule =>
    have hflow : IsFlow rule.flow := h.flows _ List.mem_cons_self
    exact ⟨_, rfl, map4_eq_ok_iff.mpr ⟨_, _, _, _, required_text rfl, required_flow rfl hflow, required_text rfl,
      required_text rfl, rfl⟩, rfl⟩
  | embeddedJson rule =>
    -- The schema is written under its preferred name, so it is looked for there.
    have hschema : schemaText (("kind", .str "markdown-json-schema") :: parameters (.embeddedJson rule)) =
        .ok rule.schema := rfl
    exact ⟨_, rfl, map4_eq_ok_iff.mpr ⟨_, _, _, _, required_text rfl, hschema,
      optional_of_lookup rfl (listOf_pairOf_textsJson rule.additional), optional_of_lookup rfl (text_str rule.help),
      rfl⟩, rfl⟩

theorem IsSound.ofJson_toJson (h : rule.IsSound) : ofJson rule.toJson = .ok rule := by
  obtain ⟨reading, hreading, hread, hunknown⟩ := h.exists_reading
  rw [toJson]
  exact ofJson_eq_ok_iff.mpr ⟨reading, rfl, hreading, hread, hunknown, h.bounds⟩

/-- The sound rules are those that can be read. -/
theorem isSound_iff : rule.IsSound ↔ ∃ data, ofJson data = .ok rule := by
  constructor
  · intro h
    exact ⟨_, h.ofJson_toJson⟩
  · rintro ⟨data, hdata⟩
    exact isSound_of_ofJson hdata

end Rule

end ProposalCheck

import ProposalCheck.Lint.Options
import ProposalCheck.Proofs.Rule.Exchange

/-!
# Options that are written and read again

The rules that options were read with are sound, so they are read back from what is written of them, under the same
names and in the same order. The changes of settings are read back without any condition.

## Main definitions

* `LintOptions.IsSound`: options whose rules are sound
* `LintOptions.replacements`: what replaces the standard rules and changes of settings, as data

## Main results

* `LintOptions.isSound_of_ofJson`: options that were read are sound
* `LintOptions.IsSound.ofJson_toJson`: sound options are read back
* `LintOptions.isSound_iff`: so the sound options are those that can be read
* `LintOptions.reads_replacements`: so are the rules and changes of settings of options that were read
-/

namespace ProposalCheck

open Checked Shape

theorem SeverityModifier.ofJson_toJson (modifier : SeverityModifier) : ofJson modifier.toJson = .ok modifier := by
  have hseverity : oneOf Severity.ofName? (.str modifier.severity.name) = .ok modifier.severity := by
    simp [oneOf]
  refine alsoCheck_eq_ok_iff.mpr ⟨map4_eq_ok_iff.mpr ⟨(), _, _, _, rfl, ?_, ?_, ?_, rfl⟩, rfl⟩
  · exact required_of_lookup rfl (text_str modifier.name)
  · exact required_of_lookup rfl (text_str modifier.value)
  · exact required_of_lookup rfl hseverity

namespace LintOptions

variable {members : List (String × Json)} {rules : List (String × Rule)} {options : LintOptions}

/-! ### Rules by their names -/

theorem rulesOfMembers_eq_ok_iff : rulesOfMembers members = .ok rules ↔
    List.Forall₂ (fun member entry => member.1 = entry.1 ∧ Rule.ofJson member.2 = .ok entry.2) members rules := by
  induction members generalizing rules with
  | nil =>
    rw [rulesOfMembers, List.forall₂_nil_left_iff, Except.ok.injEq]
    exact eq_comm
  | cons member rest ih =>
    rw [rulesOfMembers, map2_eq_ok_iff]
    constructor
    · rintro ⟨rule, others, hrule, hothers, rfl⟩
      exact .cons ⟨rfl, within_eq_ok_iff.mp hrule⟩ (ih.mp hothers)
    · rintro (_ | ⟨⟨hname, hrule⟩, hothers⟩)
      exact ⟨_, _, within_eq_ok_iff.mpr hrule, ih.mpr hothers, by rw [hname]⟩

theorem isSound_of_rulesOfJson {data : Json} (h : rulesOfJson data = .ok rules) :
    ∀ entry ∈ rules, entry.2.IsSound := by
  cases data with
  | obj members =>
    exact forall_of_forall₂ (rulesOfMembers_eq_ok_iff.mp h) fun _ _ hentry => Rule.isSound_of_ofJson hentry.2
  | null | bool _ | int _ | float _ | str _ | arr _ => cases h

/-- Sound rules are read back under their names and in their order. -/
theorem rulesOfJson_rulesJson (h : ∀ entry ∈ rules, entry.2.IsSound) : rulesOfJson (rulesJson rules) = .ok rules := by
  refine rulesOfMembers_eq_ok_iff.mpr ?_
  rw [List.forall₂_map_left_iff]
  exact List.forall₂_same.mpr fun entry hentry => ⟨rfl, (h entry hentry).ofJson_toJson⟩

/-! ### Options -/

/-- All rules of some options are sound. -/
def IsSound (options : LintOptions) : Prop := ∀ rules, options.rules = some rules → ∀ entry ∈ rules, entry.2.IsSound

theorem isSound_of_ofJson {data : Json} (h : ofJson data = .ok options) : options.IsSound := by
  intro rules hrules
  cases data with
  | obj members =>
    rw [ofJson, ofMembers, alsoCheck_eq_ok_iff, map5_eq_ok_iff] at h
    obtain ⟨⟨allow, warn, deny, given, modifiers, -, -, -, hgiven, -, rfl⟩, -⟩ := h
    obtain rfl : given = some rules := hrules
    rcases optional_eq_ok_iff.mp hgiven with ⟨-, hnone⟩ | ⟨value, -, hvalue⟩
    · cases hnone
    · exact isSound_of_rulesOfJson (nullable_eq_ok_some_iff.mp hvalue).2
  | null | bool _ | int _ | float _ | str _ | arr _ =>
    cases h
    cases hrules

/-- Modifiers of options as data, which are `null` if the standard ones are to be used. -/
theorem nullable_modifiers (modifiers : Option (List SeverityModifier)) :
    nullable (listOf SeverityModifier.ofJson)
      (modifiers.elim .null fun all => .arr (all.map SeverityModifier.toJson)) = .ok modifiers :=
  nullable_elim fun _ _ => ⟨Json.noConfusion, listOf_map fun modifier _ => modifier.ofJson_toJson⟩

theorem IsSound.nullable_rules (h : options.IsSound) :
    nullable rulesOfJson (options.rules.elim .null rulesJson) = .ok options.rules :=
  nullable_elim fun rules hrules => ⟨Json.noConfusion, rulesOfJson_rulesJson (h rules hrules)⟩

theorem IsSound.ofJson_toJson (h : options.IsSound) : ofJson options.toJson = .ok options := by
  have htexts (all : List String) : listOf text (.arr (all.map .str)) = .ok all := listOf_map fun s _ => text_str s
  refine alsoCheck_eq_ok_iff.mpr ⟨map5_eq_ok_iff.mpr ⟨_, _, _, _, _, ?_, ?_, ?_, ?_, ?_, rfl⟩, rfl⟩
  · exact optional_of_lookup rfl (htexts options.allow)
  · exact optional_of_lookup rfl (htexts options.warn)
  · exact optional_of_lookup rfl (htexts options.deny)
  · exact optional_of_lookup rfl h.nullable_rules
  · exact optional_of_lookup rfl (nullable_modifiers options.modifiers)

/-- What replaces the standard rules and changes of settings, as data. -/
def replacements (options : LintOptions) : Json :=
  .obj [("default_lints", options.rules.elim .null rulesJson),
    ("default_modifiers", options.modifiers.elim .null fun all => .arr (all.map SeverityModifier.toJson))]

/-- Whatever is not a rule or a change of settings is not read from replacements. -/
theorem IsSound.ofJson_replacements (h : options.IsSound) :
    ofJson options.replacements = .ok { rules := options.rules, modifiers := options.modifiers } := by
  refine alsoCheck_eq_ok_iff.mpr ⟨map5_eq_ok_iff.mpr ⟨_, _, _, _, _, rfl, rfl, rfl, ?_, ?_, rfl⟩, rfl⟩
  · exact optional_of_lookup rfl h.nullable_rules
  · exact optional_of_lookup rfl (nullable_modifiers options.modifiers)

/-- The sound options are those that can be read. -/
theorem isSound_iff : options.IsSound ↔ ∃ data, ofJson data = .ok options := by
  constructor
  · intro h
    exact ⟨_, h.ofJson_toJson⟩
  · rintro ⟨data, hdata⟩
    exact isSound_of_ofJson hdata

/-- Options can be read if and only if they are sound, whatever else they say. The rules and changes of settings of
options that were read are read back from what is written of them, the rules under their names and in their order, and
then the same is written of them again. So are the options as a whole. -/
theorem reads_replacements :
    (∀ options : LintOptions, (∃ data, ofJson data = .ok options) ↔ options.IsSound) ∧
    ∀ data options, ofJson data = .ok options →
      (∃ again, ofJson options.replacements = .ok again ∧ again.rules = options.rules ∧
        again.modifiers = options.modifiers ∧ again.replacements = options.replacements) ∧
      ∃ again, ofJson options.toJson = .ok again ∧ again = options ∧ again.toJson = options.toJson := by
  refine ⟨fun options => isSound_iff.symm, fun data options h => ?_⟩
  have hsound := isSound_of_ofJson h
  exact ⟨⟨_, hsound.ofJson_replacements, rfl, rfl, rfl⟩, _, hsound.ofJson_toJson, rfl, rfl⟩

/-- Bounds are given as a truth value and as a text, a schema under its other name, and the kind of a change is left
out. -/
theorem reads_replacements_lax :
    let data : Json := .obj [
      ("default_lints", .obj [
        ("z", .obj [("max", .str "4"), ("kind", .str "preamble-length"), ("min", .bool true),
          ("name", .str "title")]),
        ("a", .obj [("kind", .str "markdown-json-schema"), ("language", .str "json"), ("schema_source", .str "{}"),
          ("additional_schemas", .arr [.arr [.str "urn:a", .str "true"]])]),
        ("m", .obj [("kind", .str "markdown-link-first"), ("pattern", .str "eip-[0-9]+")]),
        ("f", .obj [("kind", .str "markdown-link-status"), ("status", .str "status"), ("prefix", .str "eip-"),
          ("suffix", .str ".md"), ("flow", .arr [.arr [.str "Draft", .str "Review"], .arr [.str "Final"]])])]),
      ("default_modifiers", .arr [.obj [("name", .str "status"), ("value", .str "Stagnant"),
        ("annotation_type", .str "warning")]])]
    let options : LintOptions := {
      rules := some [("z", .length ⟨"title", some 1, some 4⟩),
        ("a", .embeddedJson ⟨"json", "{}", [("urn:a", "true")], ""⟩), ("m", .linkFirst ⟨"eip-[0-9]+"⟩),
        ("f", .linkStatus ⟨"status", [["Draft", "Review"], ["Final"]], "eip-", ".md"⟩)]
      modifiers := some [⟨"status", "Stagnant", .warning⟩] }
    ofJson data = .ok options ∧ ∃ again, ofJson options.replacements = .ok again ∧ again.rules = options.rules ∧
      again.modifiers = options.modifiers := by
  intro data options
  have hdata : ofJson data = .ok options := by decide +kernel
  obtain ⟨⟨again, hagain, hrules, hmodifiers, -⟩, -⟩ := reads_replacements.2 data options hdata
  exact ⟨hdata, again, hagain, hrules, hmodifiers⟩

end LintOptions

end ProposalCheck

import Mathlib.Data.List.Forall2
import ProposalCheck.Proofs.Source.Rows
import ProposalCheck.Validation.Shape

/-!
# What checks of shapes accept

A check of composed data gives a value exactly if the checks of its parts give the parts. So what a check accepts can
be taken apart, and data that are written from a value are accepted as soon as their parts are.

## Main results

* `Checked.map2_eq_ok_iff` to `Checked.map5_eq_ok_iff`: values that are made of several parts
* `Checked.ensure_eq_ok_iff`, `Checked.alsoCheck_eq_ok_iff`: further conditions
* `Shape.required_eq_ok_iff`, `Shape.optional_eq_ok_iff`: members of an object
* `Shape.listOf_eq_ok_iff`, `Shape.listOf_map`: lists
* `Shape.nullable_eq_ok_some_iff`, `Shape.nullable_elim`: values that may be missing
-/

namespace ProposalCheck

namespace Checked

variable {α β γ δ ε ζ : Type} {a : Checked α} {b : Checked β} {c : Checked γ} {d : Checked δ} {e : Checked ε}

theorem map_eq_ok_iff {f : α → β} {y : β} : a.map f = .ok y ↔ ∃ x, a = .ok x ∧ f x = y := by
  cases a with
  | error issues => simp [Except.map]
  | ok x => simp [Except.map]

@[simp] theorem within_eq_ok_iff {item : PathItem} {x : α} : a.within item = .ok x ↔ a = .ok x := by
  cases a with
  | error issues => simp [within]
  | ok x => simp [within]

theorem both_eq_ok_iff {x : α} {y : β} : a.both b = .ok (x, y) ↔ a = .ok x ∧ b = .ok y := by
  cases a <;> cases b <;> simp [both]

theorem andThen_eq_ok_iff {f : Checked (α → β)} {y : β} :
    f.andThen a = .ok y ↔ ∃ g x, f = .ok g ∧ a = .ok x ∧ g x = y := by
  rw [andThen, map_eq_ok_iff]
  constructor
  · rintro ⟨⟨g, x⟩, hboth, rfl⟩
    obtain ⟨hg, hx⟩ := both_eq_ok_iff.mp hboth
    exact ⟨g, x, hg, hx, rfl⟩
  · rintro ⟨g, x, hg, hx, rfl⟩
    exact ⟨(g, x), both_eq_ok_iff.mpr ⟨hg, hx⟩, rfl⟩

theorem map2_eq_ok_iff {f : α → β → γ} {z : γ} :
    map2 f a b = .ok z ↔ ∃ x y, a = .ok x ∧ b = .ok y ∧ f x y = z := by
  rw [map2, andThen_eq_ok_iff]
  constructor
  · rintro ⟨_, y, hg, hy, rfl⟩
    obtain ⟨x, hx, rfl⟩ := map_eq_ok_iff.mp hg
    exact ⟨x, y, hx, hy, rfl⟩
  · rintro ⟨x, y, hx, hy, rfl⟩
    exact ⟨f x, y, map_eq_ok_iff.mpr ⟨x, hx, rfl⟩, hy, rfl⟩

theorem map3_eq_ok_iff {f : α → β → γ → δ} {w : δ} :
    map3 f a b c = .ok w ↔ ∃ x y z, a = .ok x ∧ b = .ok y ∧ c = .ok z ∧ f x y z = w := by
  rw [map3, andThen_eq_ok_iff]
  constructor
  · rintro ⟨_, z, hg, hz, rfl⟩
    obtain ⟨x, y, hx, hy, rfl⟩ := map2_eq_ok_iff.mp hg
    exact ⟨x, y, z, hx, hy, hz, rfl⟩
  · rintro ⟨x, y, z, hx, hy, hz, rfl⟩
    exact ⟨f x y, z, map2_eq_ok_iff.mpr ⟨x, y, hx, hy, rfl⟩, hz, rfl⟩

theorem map4_eq_ok_iff {f : α → β → γ → δ → ε} {v : ε} :
    map4 f a b c d = .ok v ↔ ∃ x y z w, a = .ok x ∧ b = .ok y ∧ c = .ok z ∧ d = .ok w ∧ f x y z w = v := by
  rw [map4, andThen_eq_ok_iff]
  constructor
  · rintro ⟨_, w, hg, hw, rfl⟩
    obtain ⟨x, y, z, hx, hy, hz, rfl⟩ := map3_eq_ok_iff.mp hg
    exact ⟨x, y, z, w, hx, hy, hz, hw, rfl⟩
  · rintro ⟨x, y, z, w, hx, hy, hz, hw, rfl⟩
    exact ⟨f x y z, w, map3_eq_ok_iff.mpr ⟨x, y, z, hx, hy, hz, rfl⟩, hw, rfl⟩

theorem map5_eq_ok_iff {f : α → β → γ → δ → ε → ζ} {u : ζ} :
    map5 f a b c d e = .ok u ↔
      ∃ x y z w v, a = .ok x ∧ b = .ok y ∧ c = .ok z ∧ d = .ok w ∧ e = .ok v ∧ f x y z w v = u := by
  rw [map5, andThen_eq_ok_iff]
  constructor
  · rintro ⟨_, v, hg, hv, rfl⟩
    obtain ⟨x, y, z, w, hx, hy, hz, hw, rfl⟩ := map4_eq_ok_iff.mp hg
    exact ⟨x, y, z, w, v, hx, hy, hz, hw, hv, rfl⟩
  · rintro ⟨x, y, z, w, v, hx, hy, hz, hw, hv, rfl⟩
    exact ⟨f x y z w, v, map4_eq_ok_iff.mpr ⟨x, y, z, w, hx, hy, hz, hw, rfl⟩, hv, rfl⟩

theorem ensure_eq_ok_iff {problem : α → Option IssueKind} {x : α} :
    ensure problem a = .ok x ↔ a = .ok x ∧ problem x = none := by
  cases a with
  | error issues => simp [ensure]
  | ok y =>
    rw [ensure]
    cases hproblem : problem y with
    | none =>
      simp only [Except.ok.injEq, iff_self_and]
      rintro rfl
      exact hproblem
    | some kind =>
      simp only [fail, reduceCtorEq, Except.ok.injEq, false_iff, not_and]
      rintro rfl
      rw [hproblem]
      exact Option.some_ne_none kind

theorem alsoCheck_eq_ok_iff {issues : List Issue} {x : α} :
    a.alsoCheck issues = .ok x ↔ a = .ok x ∧ issues = [] := by
  cases a <;> cases issues <;> simp [alsoCheck]

/-- The items of a list are accepted if each of them is. -/
theorem itemsFrom_eq_ok_iff {check : Json → Checked α} {start : Nat} {items : List Json} {values : List α} :
    itemsFrom check start items = .ok values ↔
      List.Forall₂ (fun item value => check item = .ok value) items values := by
  induction items generalizing start values with
  | nil =>
    rw [itemsFrom, List.forall₂_nil_left_iff, Except.ok.injEq]
    exact eq_comm
  | cons item rest ih =>
    rw [itemsFrom, map_eq_ok_iff]
    constructor
    · rintro ⟨⟨value, others⟩, hboth, rfl⟩
      obtain ⟨hvalue, hothers⟩ := both_eq_ok_iff.mp hboth
      exact .cons (within_eq_ok_iff.mp hvalue) (ih.mp hothers)
    · rintro (_ | ⟨hvalue, hothers⟩)
      exact ⟨(_, _), both_eq_ok_iff.mpr ⟨within_eq_ok_iff.mpr hvalue, ih.mpr hothers⟩, rfl⟩

end Checked

namespace Shape

open Checked

variable {α β : Type} {check : Json → Checked α} {members : List (String × Json)} {name : String} {value : Json}

@[simp] theorem text_str (s : String) : text (.str s) = .ok s := rfl

@[simp] theorem integer_int (n : Int) : integer (.int n) = .ok n := rfl

theorem listOf_eq_ok_iff {values : List α} : listOf check value = .ok values ↔
    ∃ items, value = .arr items ∧ List.Forall₂ (fun item value => check item = .ok value) items values := by
  cases value <;> simp [listOf, fail, itemsFrom_eq_ok_iff]

/-- What is written item by item is read item by item. -/
theorem listOf_map {toJson : α → Json} {values : List α} (h : ∀ value ∈ values, check (toJson value) = .ok value) :
    listOf check (.arr (values.map toJson)) = .ok values := by
  refine listOf_eq_ok_iff.mpr ⟨_, rfl, ?_⟩
  rw [List.forall₂_map_left_iff]
  exact List.forall₂_same.mpr h

/-- Items that were read have whatever the check of each gives them. -/
theorem forall_of_listOf {p : α → Prop} {values : List α} (h : listOf check value = .ok values)
    (hcheck : ∀ item value, check item = .ok value → p value) : ∀ value ∈ values, p value := by
  obtain ⟨items, -, hitems⟩ := listOf_eq_ok_iff.mp h
  exact forall_of_forall₂ hitems hcheck

theorem nullable_eq_ok_some_iff {x : α} :
    nullable check value = .ok (some x) ↔ value ≠ .null ∧ check value = .ok x := by
  cases value <;> simp [nullable, map_eq_ok_iff]

/-- What is written of a value that may be missing is read back if it is not `null`. -/
theorem nullable_elim {toJson : α → Json} {given : Option α}
    (h : ∀ x, given = some x → toJson x ≠ .null ∧ check (toJson x) = .ok x) :
    nullable check (given.elim .null toJson) = .ok given := by
  cases given with
  | none => rfl
  | some x => exact nullable_eq_ok_some_iff.mpr (h x rfl)

theorem required_eq_ok_iff {x : α} : required members name check = .ok x ↔
    ∃ value, Json.lookup name members = some value ∧ check value = .ok x := by
  rw [required]
  cases Json.lookup name members <;> simp

theorem optional_eq_ok_iff {default x : α} : optional members name default check = .ok x ↔
    (Json.lookup name members = none ∧ x = default) ∨
      ∃ value, Json.lookup name members = some value ∧ check value = .ok x := by
  rw [optional]
  cases Json.lookup name members <;> simp [eq_comm (a := x)]

theorem required_of_lookup {x : α} (hlookup : Json.lookup name members = some value) (h : check value = .ok x) :
    required members name check = .ok x := required_eq_ok_iff.mpr ⟨value, hlookup, h⟩

theorem optional_of_lookup {default x : α} (hlookup : Json.lookup name members = some value) (h : check value = .ok x) :
    optional members name default check = .ok x := optional_eq_ok_iff.mpr (.inr ⟨value, hlookup, h⟩)

end Shape

end ProposalCheck

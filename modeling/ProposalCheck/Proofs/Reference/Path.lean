import Mathlib.Tactic.IntervalCases
import ProposalCheck.Proofs.Text.Split
import ProposalCheck.Reference.Path

/-!
# Normal forms of paths

What a path leads to depends on the slashes at its front and on its steps: the names in it that are neither empty nor
`.`. The names of a normal form are kept when they are added up again, so that a normal form is its own normal form.
A path that is put below a directory keeps its steps, and the step `.` is none.

## Main definitions

* `Path.steps`: the names of a path that lead anywhere
* `Path.IsKept`: the names of a normal form, the last one first

## Main results

* `Path.normalizeChars_congr`: paths with the same slashes at the front and the same steps have one normal form
* `Path.normalize_normalize`: a normal form is its own normal form
* `resolveSibling_eq`: the path of a sibling is a normal form that depends on the directory
* `resolveSibling_here`: a step from a directory to itself changes no path below it
-/

namespace ProposalCheck

namespace Path

/-! ### Steps -/

/-- Does a name lead anywhere? -/
def isStep (name : List Char) : Bool := name ≠ [] && name ≠ ['.']

/-- The names of a path that lead anywhere. -/
def steps (path : List Char) : List (List Char) := (names path).filter isStep

section steps

variable {path rest name : List Char}

theorem addName_of_not_isStep (rooted : Bool) (kept : List (List Char)) (h : isStep name = false) :
    addName rooted kept name = kept := by
  have hstay : name = [] ∨ name = ['.'] := by simpa [isStep, Decidable.or_iff_not_imp_left] using h
  simp [addName, hstay]

theorem addName_of_isStep (rooted : Bool) (kept : List (List Char)) (h : isStep name) (hup : name ≠ ['.', '.']) :
    addName rooted kept name = name :: kept := by
  have hmove : ¬(name = [] ∨ name = ['.']) := by simpa [isStep, not_or] using h
  simp [addName, hmove, hup]

theorem addName_up_nil (rooted : Bool) :
    addName rooted [] ['.', '.'] = if rooted then [] else [['.', '.']] := by
  simp [addName]

theorem addName_up_cons (rooted : Bool) (last : List Char) (rest : List (List Char)) :
    addName rooted (last :: rest) ['.', '.'] =
      if last = ['.', '.'] then ['.', '.'] :: last :: rest else rest := by
  simp [addName]

/-- Only steps add to a normal form. -/
theorem foldl_addName_steps (rooted : Bool) (kept : List (List Char)) (path : List Char) :
    (steps path).foldl (addName rooted) kept = (names path).foldl (addName rooted) kept := by
  rw [steps, List.foldl_filter]
  congr 1
  funext kept name
  split_ifs with h
  · rfl
  · rw [addName_of_not_isStep rooted kept (Bool.eq_false_iff.mpr h)]

@[simp] theorem steps_nil : steps [] = [] := rfl

theorem steps_append_slash (path rest : List Char) : steps (path ++ '/' :: rest) = steps path ++ steps rest := by
  rw [steps, names, splitWhere_append (by decide), List.filter_append]
  rfl

@[simp] theorem steps_slash (rest : List Char) : steps ('/' :: rest) = steps rest := steps_append_slash [] rest

theorem steps_of_isStep (hname : isStep name) (hslash : '/' ∉ name) : steps name = [name] := by
  have hnone : ∀ c ∈ name, decide (c = '/') = false := fun c hc => by
    rw [decide_eq_false_iff_not]
    rintro rfl
    exact hslash hc
  rw [steps, names, splitWhere_of_all_not hnone, List.filter_singleton, hname]
  rfl

theorem steps_joinNames {kept : List (List Char)} (h : ∀ name ∈ kept, isStep name ∧ '/' ∉ name) :
    steps (joinNames kept) = kept := by
  induction kept with
  | nil => rfl
  | cons name kept ih =>
    rw [List.forall_mem_cons] at h
    have hname := steps_of_isStep h.1.1 h.1.2
    cases kept with
    | nil => exact hname
    | cons next kept =>
      rw [joinNames, steps_append_slash, hname, ih h.2, List.singleton_append]
      exact List.cons_ne_nil next kept

theorem steps_replicate_append (n : Nat) (path : List Char) : steps (List.replicate n '/' ++ path) = steps path := by
  induction n with
  | zero => rfl
  | succ n ih => rw [List.replicate_succ, List.cons_append, steps_slash, ih]

/-- What is made of steps does not start with a slash. -/
theorem head?_joinNames {kept : List (List Char)} (h : ∀ name ∈ kept, isStep name ∧ '/' ∉ name) :
    (joinNames kept).head? ≠ some '/' := by
  cases kept with
  | nil => simp [joinNames]
  | cons name kept =>
    obtain ⟨hname, hslash⟩ := h name List.mem_cons_self
    cases name with
    | nil => cases hname
    | cons c name =>
      have hc : c ≠ '/' := fun hc => hslash (by simp [hc])
      cases kept <;> simpa [joinNames] using hc

end steps

/-! ### Slashes at the front -/

section rootSlashes

variable {path rest : List Char}

/-- What does not start with a slash adds none to the front of a path. -/
theorem rootSlashes_append (path : List Char) (h : rest.head? ≠ some '/') :
    rootSlashes (path ++ rest) = rootSlashes path := by
  have hrest : rest.takeWhile (· = '/') = [] := by
    cases rest with
    | nil => rfl
    | cons c rest => exact List.takeWhile_cons_of_neg fun hc => h (congrArg some (of_decide_eq_true hc))
  -- the slashes end within `path`, or `path` is nothing else and `rest` adds none
  have htake : (path ++ rest).takeWhile (· = '/') = path.takeWhile (· = '/') := by
    rw [List.takeWhile_append, hrest]
    split_ifs with hall
    · rw [List.append_nil, (List.takeWhile_prefix _).eq_of_length hall]
    · rfl
  rw [rootSlashes, rootSlashes, htake]

theorem rootSlashes_le (path : List Char) : rootSlashes path ≤ 2 := by
  unfold rootSlashes
  split <;> decide

theorem rootSlashes_replicate {n : Nat} (h : n ≤ 2) : rootSlashes (List.replicate n '/') = n := by
  interval_cases n <;> rfl

end rootSlashes

/-! ### Names of a normal form -/

/-- The names of a normal form, the last one first. The step up stands only at the start of a path that has no slash
in front. -/
inductive IsKept (rooted : Bool) : List (List Char) → Prop
  | nil : IsKept rooted []
  | up {kept : List (List Char)} (hkept : IsKept rooted kept) (hrooted : rooted = false)
      (hlast : ∀ last ∈ kept.head?, last = ['.', '.']) : IsKept rooted (['.', '.'] :: kept)
  | name {name : List Char} {kept : List (List Char)} (hkept : IsKept rooted kept) (hname : isStep name)
      (hslash : '/' ∉ name) (hup : name ≠ ['.', '.']) : IsKept rooted (name :: kept)

namespace IsKept

variable {rooted : Bool} {kept : List (List Char)}

theorem tail {name : List Char} (h : IsKept rooted (name :: kept)) : IsKept rooted kept := by
  cases h with
  | up hkept => exact hkept
  | name hkept => exact hkept

theorem isStep_of_mem (h : IsKept rooted kept) : ∀ name ∈ kept, isStep name ∧ '/' ∉ name := by
  induction h with
  | nil => simp
  | up _ _ _ ih => exact List.forall_mem_cons.mpr ⟨by decide, ih⟩
  | name _ hname hslash _ ih => exact List.forall_mem_cons.mpr ⟨⟨hname, hslash⟩, ih⟩

/-- A name that is added to the names of a normal form gives the names of a normal form. -/
theorem addName (h : IsKept rooted kept) {name : List Char} (hslash : '/' ∉ name) :
    IsKept rooted (addName rooted kept name) := by
  -- only a step up looks at what is kept: it takes back a name, or is kept itself behind other steps up
  by_cases hstep : isStep name
  swap
  · rw [addName_of_not_isStep rooted kept (Bool.eq_false_iff.mpr hstep)]
    exact h
  by_cases hup : name = ['.', '.']
  swap
  · rw [addName_of_isStep rooted kept hstep hup]
    exact .name h hstep hslash hup
  subst hup
  cases kept with
  | nil =>
    rw [addName_up_nil]
    cases rooted with
    | false => exact .up .nil rfl (by simp)
    | true => exact .nil
  | cons last rest =>
    rw [addName_up_cons]
    split_ifs with hlast
    · subst hlast
      cases h with
      | up hkept hrooted hbefore => exact .up (.up hkept hrooted hbefore) hrooted (by simp)
      | name _ _ _ hne => exact absurd rfl hne
    · exact h.tail

/-- Names that are added up are the names of a normal form. -/
theorem foldl_addName (h : IsKept rooted kept) {names : List (List Char)} (hnames : ∀ name ∈ names, '/' ∉ name) :
    IsKept rooted (names.foldl (Path.addName rooted) kept) := by
  induction names generalizing kept with
  | nil => exact h
  | cons name names ih =>
    rw [List.forall_mem_cons] at hnames
    exact ih (h.addName hnames.1) hnames.2

/-- The names of a normal form are kept when they are added up again. -/
theorem foldl_reverse (h : IsKept rooted kept) : kept.reverse.foldl (Path.addName rooted) [] = kept := by
  -- the name in front is the last one to be added, to what the names behind it have become
  induction h with
  | nil => rfl
  | @up kept _ hrooted hlast ih =>
    rw [List.reverse_cons, List.foldl_append, ih, List.foldl_cons, List.foldl_nil]
    cases kept with
    | nil => simp [addName_up_nil, hrooted]
    | cons last rest => simp [addName_up_cons, hlast last rfl]
  | name _ hname _ hup ih =>
    rw [List.reverse_cons, List.foldl_append, ih, List.foldl_cons, List.foldl_nil,
      addName_of_isStep rooted _ hname hup]

end IsKept

/-! ### Normal forms -/

/-- The names of the normal form of a path, the last one first. -/
def keptNames (path : List Char) : List (List Char) :=
  (steps path).foldl (addName (rootSlashes path != 0)) []

/-- The normal form of a path, which may be empty. -/
def normalText (path : List Char) : List Char :=
  List.replicate (rootSlashes path) '/' ++ joinNames (keptNames path).reverse

theorem normalizeChars_eq (path : List Char) :
    normalizeChars path = if normalText path = [] then ['.'] else normalText path := by
  rw [normalizeChars, normalText, keptNames, foldl_addName_steps]

section normal

variable {path rest : List Char}

/-- Paths with the same slashes at the front and the same steps have one normal form. -/
theorem normalizeChars_congr (hslashes : rootSlashes path = rootSlashes rest) (hsteps : steps path = steps rest) :
    normalizeChars path = normalizeChars rest := by
  have htext : normalText path = normalText rest := by rw [normalText, normalText, keptNames, keptNames, hslashes, hsteps]
  rw [normalizeChars_eq, normalizeChars_eq, htext]

theorem isKept_keptNames (path : List Char) : IsKept (rootSlashes path != 0) (keptNames path) := by
  refine IsKept.nil.foldl_addName fun name hname hslash => ?_
  have hnone := not_of_mem_splitWhere (List.mem_of_mem_filter hname) hslash
  exact absurd hnone (by decide)

theorem isStep_of_mem_keptNames (path : List Char) :
    ∀ name ∈ (keptNames path).reverse, isStep name ∧ '/' ∉ name := fun name hname =>
  (isKept_keptNames path).isStep_of_mem name (List.mem_reverse.mp hname)

theorem rootSlashes_normalText (path : List Char) : rootSlashes (normalText path) = rootSlashes path := by
  rw [normalText, rootSlashes_append _ (head?_joinNames (isStep_of_mem_keptNames path)),
    rootSlashes_replicate (rootSlashes_le path)]

theorem steps_normalText (path : List Char) : steps (normalText path) = (keptNames path).reverse := by
  rw [normalText, steps_replicate_append, steps_joinNames (isStep_of_mem_keptNames path)]

theorem normalText_normalText (path : List Char) : normalText (normalText path) = normalText path := by
  have hkept : keptNames (normalText path) = keptNames path := by
    rw [keptNames, rootSlashes_normalText, steps_normalText, (isKept_keptNames path).foldl_reverse]
  rw [normalText, rootSlashes_normalText, hkept, ← normalText]

theorem normalizeChars_normalizeChars (path : List Char) :
    normalizeChars (normalizeChars path) = normalizeChars path := by
  rw [normalizeChars_eq path]
  split_ifs with hempty
  -- `.` has no steps and no slashes
  · rfl
  · rw [normalizeChars_eq, normalText_normalText, if_neg hempty]

end normal

/-- A normal form is its own normal form. -/
theorem normalize_normalize (path : String) : normalize (normalize path) = normalize path := by
  rw [normalize, normalize, String.toList_ofList, normalizeChars_normalizeChars]

/-! ### Paths below a directory -/

section below

variable {base path : List Char}

/-- What a directory puts in front of a path below it. -/
def below (base : List Char) : List Char := if base = [] ∨ base.getLast? = some '/' then base else base ++ ['/']

theorem joinChars_eq (base : List Char) (h : path.head? ≠ some '/') : joinChars base path = below base ++ path := by
  rw [joinChars, if_neg h, below]
  split_ifs
  · rfl
  · simp

/-- The steps below a directory follow those to it. -/
theorem steps_below_append (base path : List Char) : steps (below base ++ path) = steps base ++ steps path := by
  unfold below
  split_ifs with hend
  · rcases hend with rfl | hlast
    · simp
    · obtain ⟨front, rfl⟩ := List.getLast?_eq_some_iff.mp hlast
      rw [List.append_assoc, List.singleton_append, steps_append_slash, steps_append_slash, steps_nil, List.append_nil]
  · rw [List.append_assoc, List.singleton_append, steps_append_slash]

/-- A step from a directory to itself changes no path below it. -/
theorem normalizeChars_joinChars_here (base : List Char) (h : path.head? ≠ some '/') :
    normalizeChars (joinChars base ('.' :: '/' :: path)) = normalizeChars (joinChars base path) := by
  have hhere : ('.' :: '/' :: path).head? ≠ some '/' := by simp
  have hsteps : steps ('.' :: '/' :: path) = steps path := steps_append_slash ['.'] path
  rw [joinChars_eq base h, joinChars_eq base hhere]
  refine normalizeChars_congr ?_ ?_
  · rw [rootSlashes_append _ hhere, rootSlashes_append _ h]
  · rw [steps_below_append, steps_below_append, hsteps]

end below

/-! ### Directories -/

@[simp] theorem directory_empty : directory "" = "" := rfl

@[simp] theorem join_empty (path : String) : join "" path = path := by
  simp [join, joinChars]

/-- A path has the directory of what stands in front of its last name. -/
theorem directory_append (front : String) {last : String} (h : '/' ∉ last.toList) :
    directory (front ++ last) = directory front := by
  have hname : ∀ c ∈ last.toList.reverse, decide (c ≠ '/') := fun c hc => by
    rw [decide_eq_true_iff]
    rintro rfl
    exact h (List.mem_reverse.mp hc)
  rw [directory, directory, directoryChars, directoryChars, String.toList_append, List.reverse_append,
    List.dropWhile_append_of_pos hname]

end Path

/-! ### Siblings -/

/-- The path of a sibling depends on the directory of the document. -/
theorem resolveSibling_eq (origin : Option String) (name : String) :
    resolveSibling origin name = Path.normalize (Path.join (Path.directory (origin.getD "")) name) := by
  cases origin with
  | none => simp [resolveSibling]
  | some origin =>
    rw [resolveSibling, Option.getD_some]
    split_ifs with hempty
    · rw [hempty, Path.directory_empty, Path.join_empty]
    · rfl

/-- The path of a sibling is a normal form. -/
theorem normalize_resolveSibling (origin : Option String) (name : String) :
    Path.normalize (resolveSibling origin name) = resolveSibling origin name := by
  rw [resolveSibling_eq, Path.normalize_normalize]

/-- The last name of a document plays no part in the paths of its siblings. -/
theorem resolveSibling_append (front name : String) {last : String} (h : '/' ∉ last.toList) :
    resolveSibling (some (front ++ last)) name = resolveSibling (some front) name := by
  rw [resolveSibling_eq, resolveSibling_eq, Option.getD_some, Option.getD_some, Path.directory_append front h]

/-- A step from a directory to itself changes no path of a sibling. -/
theorem resolveSibling_here (origin : Option String) {name : String} (h : name.toList.head? ≠ some '/') :
    resolveSibling origin ("./" ++ name) = resolveSibling origin name := by
  have hchars : ("./" ++ name).toList = '.' :: '/' :: name.toList := by simp
  rw [resolveSibling_eq, resolveSibling_eq, Path.normalize, Path.normalize, Path.join, Path.join, String.toList_ofList,
    String.toList_ofList, hchars, Path.normalizeChars_joinChars_here _ h]

end ProposalCheck

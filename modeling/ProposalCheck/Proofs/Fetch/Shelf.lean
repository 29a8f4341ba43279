import ProposalCheck.Proofs.Fetch.Failure
import ProposalCheck.Proofs.Reference.Path

/-!
# What is on a shelf

A text that is put on a shelf is found at all spellings of its path, and what is found elsewhere stays. Of many texts
that are put there one after the other, the last one with a spelling of the path that is looked for is found.

## Main definitions

* `Shelf.addAll`: a shelf after some more texts
* `Shelf.named`: the texts with a spelling of a path

## Main results

* `Shelf.find?_add`: what one more text changes
* `Shelf.find?_addAll`: what is found after some more texts
* `Shelf.siblings_canonical`: paths of siblings are normal forms, and all spellings of a path name one text
-/

namespace ProposalCheck

namespace Shelf

/-- Puts texts on the shelf one after the other. -/
def addAll (shelf : Shelf) (entries : List (String × String)) : Shelf :=
  entries.foldl (fun shelf (path, text) => shelf.add path text) shelf

/-- The texts whose paths are spellings of a path. -/
def named (entries : List (String × String)) (path : String) : List (String × String) :=
  entries.filter fun entry => Path.normalize entry.1 = Path.normalize path

theorem ofList_eq (documents : List (String × String)) : ofList documents = addAll {} documents := rfl

theorem addAll_addAll (shelf : Shelf) (entries more : List (String × String)) :
    (shelf.addAll entries).addAll more = shelf.addAll (entries ++ more) := List.foldl_append.symm

section find

variable {path other text : String}

/-- One more text is found at all spellings of its path, and what is found elsewhere stays. -/
theorem find?_add (shelf : Shelf) (path text other : String) :
    (shelf.add path text).find? other =
      if Path.normalize path = Path.normalize other then some text else shelf.find? other := by
  rw [add, find?, find?, List.lookup_cons]
  by_cases h : Path.normalize path = Path.normalize other
  · rw [if_pos h, h, beq_self_eq_true]
  · rw [if_neg h, beq_false_of_ne (Ne.symm h)]

/-- Of some more texts the last one with a spelling of a path is found. -/
theorem find?_addAll (shelf : Shelf) (entries : List (String × String)) (path : String) :
    (shelf.addAll entries).find? path = ((named entries path).getLast?.map Prod.snd).or (shelf.find? path) := by
  -- each text hides those before it
  induction entries generalizing shelf with
  | nil => rfl
  | cons entry entries ih =>
    have hstep : shelf.addAll (entry :: entries) = (shelf.add entry.1 entry.2).addAll entries := rfl
    rw [hstep, ih, find?_add, named, named, List.filter_cons]
    by_cases h : Path.normalize entry.1 = Path.normalize path
    · rw [if_pos h, if_pos (decide_eq_true h), List.getLast?_cons]
      cases (entries.filter fun entry => Path.normalize entry.1 = Path.normalize path).getLast? <;> rfl
    · rw [if_neg h, if_neg (by simpa using h)]

theorem find?_ofList (documents : List (String × String)) (path : String) :
    (ofList documents).find? path = (named documents path).getLast?.map Prod.snd := by
  rw [ofList_eq, find?_addAll]
  exact Option.or_none

/-- All spellings of a path find the same text. -/
theorem find?_congr (shelf : Shelf) (h : Path.normalize other = Path.normalize path) :
    shelf.find? other = shelf.find? path := by
  rw [find?, find?, h]

theorem read_eq_ok_iff (shelf : Shelf) : shelf.source.read none path = .ok text ↔ shelf.find? path = some text := by
  rw [read_source]
  cases shelf.find? path <;> simp

theorem read_eq_error_iff (shelf : Shelf) :
    shelf.source.read none path = .error ⟨path, "not found"⟩ ↔ shelf.find? path = none := by
  rw [read_source]
  cases shelf.find? path <;> simp

end find

/-- The path of a sibling is a normal form. It depends on the document only by its directory, in which the last name of
the document plays no part, and a step from the directory to itself makes no difference. Whatever has been put on a
shelf, reading a path gives the text that was put there last under a spelling of the path, or fails for this path if
there is none, so that all spellings give the same text. -/
theorem siblings_canonical :
    (∀ (origin : Option String) (name : String),
      Path.normalize (resolveSibling origin name) = resolveSibling origin name ∧
      (∀ other : Option String, Path.directory (other.getD "") = Path.directory (origin.getD "") →
        resolveSibling other name = resolveSibling origin name) ∧
      (name.toList.head? ≠ some '/' → resolveSibling origin name = resolveSibling origin ("./" ++ name))) ∧
    (∀ front last name : String, '/' ∉ last.toList →
      resolveSibling (some (front ++ last)) name = resolveSibling (some front) name) ∧
    ∀ (documents added : List (String × String)) (path : String),
      let source := ((ofList documents).addAll added).source
      (∀ text, source.read none path = .ok text ↔
        ∃ spelling, (named (documents ++ added) path).getLast? = some (spelling, text)) ∧
      (source.read none path = .error ⟨path, "not found"⟩ ↔ named (documents ++ added) path = []) ∧
      ∀ other, Path.normalize other = Path.normalize path →
        ∀ text, source.read none other = .ok text ↔ source.read none path = .ok text := by
  refine ⟨fun origin name => ⟨normalize_resolveSibling origin name, fun other h => ?_,
    fun h => (resolveSibling_here origin h).symm⟩, fun front last name h => resolveSibling_append front name h,
    fun documents added path => ?_⟩
  · rw [resolveSibling_eq, resolveSibling_eq, h]
  · -- what is added to a shelf is as if it had been on its list from the start
    have hshelf : (ofList documents).addAll added = ofList (documents ++ added) := addAll_addAll _ _ _
    rw [hshelf]
    refine ⟨fun text => ?_, ?_, fun other h text => ?_⟩
    · rw [read_eq_ok_iff, find?_ofList]
      simp
    · rw [read_eq_error_iff, find?_ofList]
      simp
    · rw [read_eq_ok_iff, read_eq_ok_iff, find?_congr _ h]

/-- Documents of one directory, steps up from there, and several spellings on one shelf. -/
theorem siblings_canonical_spelled :
    let source := ((ofList [("//b", "one"), ("b", "two")]).addAll [("./c/../b/", "three"), ("/b", "four")]).source
    resolveSibling (some "../eips//x") "../.././a//b" = resolveSibling (some "../eips/y") "./../.././a//b" ∧
      resolveSibling (some ("../eips/" ++ "y")) "../.././a//b" = resolveSibling (some "../eips/") "../.././a//b" ∧
      Path.normalize (resolveSibling none "///..//a") = resolveSibling none "///..//a" ∧
      source.read none "b" = .ok "three" ∧ source.read none "a/..//b/." = .ok "three" ∧
      source.read none "/../b" = .ok "four" ∧ source.read none "" = .error ⟨"", "not found"⟩ := by
  obtain ⟨hsibling, hlast, hshelf⟩ := siblings_canonical
  obtain ⟨-, hdirectory, hhere⟩ := hsibling (some "../eips/y") "../.././a//b"
  have hread := hshelf [("//b", "one"), ("b", "two")] [("./c/../b/", "three"), ("/b", "four")]
  have hb := ((hread "b").1 "three").mpr ⟨"./c/../b/", by decide +kernel⟩
  refine ⟨(hdirectory (some "../eips//x") (by decide +kernel)).trans (hhere (by decide)), hlast _ _ _ (by decide),
    (hsibling none _).1, hb, ?_, ?_, ?_⟩
  · exact ((hread "b").2.2 "a/..//b/." (by decide +kernel) "three").mpr hb
  · exact ((hread "/../b").1 "four").mpr ⟨"/b", by decide +kernel⟩
  · exact (hread "").2.1.mpr (by decide +kernel)

end Shelf

end ProposalCheck

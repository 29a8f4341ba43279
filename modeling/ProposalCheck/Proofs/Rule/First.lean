import ProposalCheck.Proofs.Document.Append
import ProposalCheck.Proofs.Rule.Presence

/-!
# The first header counts

A preamble may repeat a header. Rules about the values of headers, and changes of the default severity, look at the
first header with a name only; and whether a header is missing does not depend on how often it is there. So they do the
same when a header is repeated at the end of the preamble: they find the same, on the same lines, and ask for the same
other documents.

## Main definitions

* `Rule.headerKinds`: the kinds of rules about the preamble that do not go through all of its lines
* `Document.Repeats`: a document has one more header than another one, which has the header already

## Main results

* `Document.Repeats.find?_eq`: a lookup finds the same
* `Rule.check_repeats`: rules find the same and ask for the same
* `Document.first_header_counts`: repeating a header changes nothing for rules and severities
-/

namespace ProposalCheck

/-- The kinds of rules about the preamble that look at some headers, and do not go through all lines. -/
def Rule.headerKinds : List String :=
  ["preamble-author", "preamble-date", "preamble-file-name", "preamble-length", "preamble-list", "preamble-one-of",
    "preamble-proposal-ref", "preamble-regex", "preamble-require-referenced", "preamble-required",
    "preamble-required-if-eq", "preamble-requires-status", "preamble-uint", "preamble-uint-list", "preamble-url"]

/-- These are all kinds of rules about the preamble but those about repeated headers, their order, and blanks. -/
theorem Rule.mem_headerKinds_iff (rule : Rule) : rule.kind ∈ headerKinds ↔
    "preamble-".toList <+: rule.kind.toList ∧
      rule.kind ∉ ["preamble-no-duplicates", "preamble-order", "preamble-trim"] := by
  cases rule <;> (rw [kind]; decide +kernel)

/-- A document has the fields of another one and one more, the name of which is the name of an earlier one. -/
structure Document.Repeats (document other : Document) (field : Field) : Prop extends document.Extends other field where
  name : field.name ∈ document.preamble.fields.map Field.name

namespace Document.Repeats

variable {document other : Document} {field : Field}

/-- A lookup finds the first field, which is no new one. -/
theorem find?_eq (h : document.Repeats other field) (name : String) :
    other.preamble.find? name = document.preamble.find? name := by
  rw [Preamble.find?, Preamble.find?, h.fields, List.find?_append]
  cases hfind : document.preamble.fields.find? (·.name = name) with
  | some first => rfl
  | none =>
    -- the new field has the name of an earlier one
    obtain ⟨earlier, hearlier, hname⟩ := List.mem_map.mp h.name
    have hother : ¬earlier.name = name := by simpa using List.find?_eq_none.mp hfind earlier hearlier
    rw [hname] at hother
    simp [hother]

theorem agrees (h : document.Repeats other field) (settings : LintSettings) (names : List String) :
    Context.Agrees ⟨document, settings⟩ ⟨other, settings⟩ names where
  origin := h.origin.symm
  find name _ := (h.find?_eq name).symm
  line _ _ first hfirst := (h.line first (List.mem_of_find?_eq_some hfirst)).symm

/-- The same headers are missing. -/
theorem missing_eq (h : document.Repeats other field) (rule : RequiredRule) :
    rule.missing other.preamble = rule.missing document.preamble := by
  obtain ⟨earlier, hearlier, hname⟩ := List.mem_map.mp h.name
  refine List.filter_congr fun name _ => congrArg (!·) (Bool.eq_iff_iff.mpr ?_)
  rw [h.fields, List.map_append, List.contains_iff_mem, List.contains_iff_mem, List.mem_append, or_iff_left_iff_imp]
  intro hnew
  rw [List.map_singleton, List.mem_singleton, ← hname] at hnew
  exact hnew ▸ List.mem_map_of_mem hearlier

end Document.Repeats

/-- Such a rule looks up headers, or tells which ones are missing. -/
theorem Rule.isRequired_or_headers {rule : Rule} (hkind : rule.kind ∈ headerKinds) :
    (∃ required, rule = .required required) ∨ rule.headers ≠ [] ∧ rule.kind ≠ "markdown-link-status" := by
  cases rule with
  | required rule => exact .inl ⟨rule, rfl⟩
  | noDuplicates | order | trim | headingSpace | comment | embeddedJson | linkFirst | linkStatus | linkText
  | bodyPattern | relativeLink | sectionOrder | sectionRequired => simp [kind, headerKinds] at hkind
  | _ => exact .inr (by simp [headers, kind])

/-- Repeating a header changes nothing for a rule that looks at headers. -/
theorem Rule.check_repeats {document other : Document} {field : Field} (h : document.Repeats other field) {rule : Rule}
    (hkind : rule.kind ∈ headerKinds) (settings : LintSettings) :
    rule.check ⟨other, settings⟩ = rule.check ⟨document, settings⟩ := by
  rcases isRequired_or_headers hkind with ⟨required, rfl⟩ | ⟨hheaders, hbody⟩
  · -- headers are missing by the set of names, which has no new one
    refine congrArg ofFinding ?_
    rw [RequiredRule.check_eq, RequiredRule.check_eq]
    exact congrArg (fun missing => Except.ok (RequiredRule.report missing)) (h.missing_eq required)
  · exact (check_congr hheaders hbody (h.agrees settings _)).symm

/-- Nor does it change anything for a change of the default severity. -/
theorem SeverityModifier.modify_repeats {document other : Document} {field : Field} (h : document.Repeats other field)
    (modifier : SeverityModifier) (settings current : LintSettings) :
    Modifier.modify modifier ⟨other, settings⟩ current = Modifier.modify modifier ⟨document, settings⟩ current := by
  refine modify_congr ?_ current
  exact h.find?_eq modifier.name

namespace Document

/-- A name that a field has can be the name of one more. -/
theorem exists_repeats {text name value : String} {origin : Option String} {document : Document}
    (h : ofString text origin = .ok document) (hname : name ∈ document.preamble.fields.map Field.name)
    (hvalue : '\n' ∉ value.toList) :
    ∃ other field, ofString (document.withHeader name value) origin = .ok other ∧ document.Repeats other field ∧
      field.name = name ∧ field.value = String.ofList (Row.dropReturn value.toList) := by
  obtain ⟨first, hfirst, rfl⟩ := List.mem_map.mp hname
  obtain ⟨k, -, hshows⟩ := exists_shows h hfirst
  -- the name stands on a line, so it holds no line feed
  have hfree : '\n' ∉ (first.name ++ ":" ++ value).toList := by
    obtain ⟨row, hrow, hsource⟩ := Lines.exists_of_line hshows.source
    have hline := Row.newline_not_mem_text (document.lines.tiles.newline_not_mem row (List.mem_of_getElem? hrow))
    rw [hsource, ← hshows.parts] at hline
    simp only [String.toList_append, List.mem_append, not_or] at hline ⊢
    exact ⟨hline.1, hvalue⟩
  obtain ⟨other, field, hother, hextends, hfieldName, hfieldValue⟩ :=
    exists_extends h hshows.name hshows.dark hfree
  exact ⟨other, field, hother, ⟨hextends, hfieldName ▸ hname⟩, hfieldName, hfieldValue⟩

/-- The first header with a name counts: with the header repeated at the end of the preamble, whatever its value,
a document is still one. Rules about the preamble that do not go through all of its lines find the same in it and ask
for the same other documents, and every change of the default severity is the same. -/
theorem first_header_counts {text name value : String} {origin : Option String} {document : Document}
    (h : ofString text origin = .ok document) (hname : name ∈ document.preamble.fields.map Field.name)
    (hvalue : '\n' ∉ value.toList) :
    ∃ other field, ofString (document.withHeader name value) origin = .ok other ∧
      other.preamble.fields = document.preamble.fields ++ [field] ∧ field.name = name ∧
      field.value = String.ofList (Row.dropReturn value.toList) ∧
      (∀ rule : Rule, rule.kind ∈ Rule.headerKinds → ∀ settings,
        rule.check ⟨other, settings⟩ = rule.check ⟨document, settings⟩) ∧
      ∀ (modifier : SeverityModifier) (settings current : LintSettings),
        Modifier.modify modifier ⟨other, settings⟩ current = Modifier.modify modifier ⟨document, settings⟩ current := by
  obtain ⟨other, field, hother, hrepeats, hfieldName, hfieldValue⟩ := exists_repeats h hname hvalue
  exact ⟨other, field, hother, hrepeats.fields, hfieldName, hfieldValue,
    fun rule hkind settings => Rule.check_repeats hrepeats hkind settings,
    SeverityModifier.modify_repeats hrepeats⟩

/-- A number that is repeated as something else, on a line that ends with a carriage return. -/
theorem first_header_counts_number :
    let rule : Rule := .uint ⟨"eip"⟩
    let modifier : SeverityModifier := ⟨"eip", "x", .warning⟩
    ∃ document other field, ofString "---\neip: 7\n---\n# é\n" none = .ok document ∧
      ofString "---\neip: 7\neip: x\r\n---\n# é\n" none = .ok other ∧
      other.preamble.fields = document.preamble.fields ++ [field] ∧ field.name = "eip" ∧ field.value = " x" ∧
      rule.check ⟨other, {}⟩ = rule.check ⟨document, {}⟩ ∧
      Modifier.modify modifier ⟨other, {}⟩ {} = Modifier.modify modifier ⟨document, {}⟩ {} := by
  intro rule modifier
  obtain ⟨document, hdocument, -, hfacts⟩ := exists_of_map_ofString
    (by decide +kernel : (ofString "---\neip: 7\n---\n# é\n" none).map
      (fun document => (document.preamble.fields.map Field.name, document.withHeader "eip" " x\r")) =
        .ok (["eip"], "---\neip: 7\neip: x\r\n---\n# é\n"))
  obtain ⟨hnames, htext⟩ := Prod.mk.inj hfacts
  obtain ⟨other, field, hother, hfields, hname, hvalue, hrules, hmodifiers⟩ :=
    first_header_counts hdocument (hnames ▸ List.mem_singleton_self "eip") (by decide : '\n' ∉ " x\r".toList)
  rw [htext] at hother
  exact ⟨document, other, field, hdocument, hother, hfields, hname, hvalue, hrules rule (by decide) {},
    hmodifiers modifier {} {}⟩

end Document

end ProposalCheck

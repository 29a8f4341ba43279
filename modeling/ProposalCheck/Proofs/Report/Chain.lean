import ProposalCheck.Proofs.Lint.Delivery

/-!
# A chain of reporters

Findings pass a reporter that counts them and one that adds a line of help, and end with one that keeps them. Help may
be refused for some rules. A finding of such a rule is counted and goes no further, and nothing else is lost: each other
finding is kept, in the order of the reports, with the line of help below its notes and no other change.

## Main definitions

* `Reporter.Keeps`: a reporter that keeps what it shows of each finding
* `Reporter.helpedFindings`: the findings for whose rule there is help, each with its line
* `Snippet.dataWithHelp`, `Snippet.rowsWithHelp`: what is kept of a finding

## Main results

* `Snippet.renderRows_addHelp`: a line of help adds a row to the text of a finding
* `Reporter.Keeps.report_chain`: one report
* `Reporter.Keeps.receive_chain`: many reports, of which some fail
* `Reporter.chain_keeps_all`: what is kept and counted, as data and as text
-/

namespace ProposalCheck

variable {ε α : Type} {snippet : Snippet} {line : String}

/-! ### A finding with help -/

namespace Snippet

/-- The finding with a line of help below its notes. -/
def addHelp (snippet : Snippet) (line : String) : Snippet := { snippet with footer := snippet.footer ++ [.help line] }

/-- The data of a finding with a line of help, together with a text. -/
def dataWithHelp (snippet : Snippet) (line text : String) : Json :=
  .obj [("title", snippet.title.toJson),
    ("footer", .arr (snippet.footer.map Note.toJson ++
      [.obj [("id", .null), ("severity", .str "help"), ("label", .str line)]])),
    ("slices", .arr (snippet.excerpts.map Excerpt.toJson)), ("formatted", .str text)]

/-- The rows of a finding and, below them, a row with a line of help. A row separates it from the excerpts if there are
no notes between them. -/
def rowsWithHelp (snippet : Snippet) (line : String) : List String :=
  let width := numberWidth snippet.excerpts
  snippet.renderRows ++ (if snippet.footer = [] then [Drawing.blankRow width] else []) ++
    [String.ofList (List.replicate width ' ') ++ " = help: " ++ line]

/-- Whether notes follow shows only below the last excerpt. -/
theorem excerptRows_true (width : Nat) (severity : Severity) (isFirst : Bool) {excerpts : List Excerpt}
    (h : excerpts ≠ []) : excerptRows width severity true isFirst excerpts =
      excerptRows width severity false isFirst excerpts ++ [Drawing.blankRow width] := by
  induction excerpts generalizing isFirst with
  | nil => exact absurd rfl h
  | cons excerpt rest ih =>
    rw [excerptRows, excerptRows]
    rcases eq_or_ne rest [] with rfl | hrest
    · simp [excerptRows]
    · simp [ih false hrest, hrest]

/-- A line of help adds a row to the text of a finding, and the row that separates notes from what stands above them if
there was no note before. -/
theorem renderRows_addHelp (snippet : Snippet) (line : String) :
    (snippet.addHelp line).renderRows = snippet.rowsWithHelp line := by
  obtain ⟨title, footer, excerpts⟩ := snippet
  have hrow : ∀ blanks : String, blanks ++ " = " ++ Severity.help.name ++ ": " ++ line = blanks ++ " = help: " ++ line := by
    intro blanks
    have hwords : " = " ++ (Severity.help.name ++ ": ") = " = help: " := rfl
    rw [← hwords, ← String.append_assoc, ← String.append_assoc]
  rcases eq_or_ne footer [] with rfl | hfooter
  · rcases eq_or_ne excerpts [] with rfl | hexcerpts
    · simp [addHelp, rowsWithHelp, renderRows, excerptRows, Note.help, hrow]
    · simp [addHelp, rowsWithHelp, renderRows, excerptRows_true _ _ _ hexcerpts, hexcerpts, Note.help, hrow]
  · have hbefore : footer.isEmpty = false := List.isEmpty_eq_false_iff.mpr hfooter
    have hafter : (footer ++ [Note.help line]).isEmpty = false := List.isEmpty_eq_false_iff.mpr (by simp)
    simp only [addHelp, rowsWithHelp, renderRows, hbefore, hafter]
    simp [hfooter, Note.help, hrow]

theorem render_addHelp (snippet : Snippet) (line : String) :
    (snippet.addHelp line).render = "\n".intercalate (snippet.rowsWithHelp line) := by
  rw [render, renderRows_addHelp]

theorem toJsonFormatted_addHelp (snippet : Snippet) (line : String) :
    (snippet.addHelp line).toJsonFormatted =
      snippet.dataWithHelp line ("\n".intercalate (snippet.rowsWithHelp line)) := by
  rw [toJsonFormatted, render_addHelp]
  simp [addHelp, toMembers, dataWithHelp, Note.help, Note.toJson, Json.ofText?, Json.ofSeverity?, Severity.name]

end Snippet

namespace Reporter

/-! ### One report -/

/-- A reporter keeps what it shows of each finding and never fails. -/
def Keeps (reporter : Reporter (List α) ε) (shown : Snippet → α) : Prop :=
  ∀ kept snippet, reporter.report kept snippet = (kept ++ [shown snippet], none)

theorem keeps_data : (data : Reporter (List Json) ε).Keeps Snippet.toJsonFormatted := fun _ _ => rfl

theorem keeps_text : (text : Reporter (List String) ε).Keeps Snippet.render := fun _ _ => rfl

/-- The help for the rule of a finding. -/
def helpFor (help : String → Except ε String) (snippet : Snippet) : Except ε String := help (snippet.ruleId.getD "")

/-- Why the help for a finding is refused, if it is. -/
def refusal? (help : String → Except ε String) (snippet : Snippet) : Option ε :=
  match helpFor help snippet with
  | .ok _ => none
  | .error problem => some problem

/-- The findings for whose rule there is help, each with its line. -/
def helpedFindings (help : String → Except ε String) (snippets : List Snippet) : List (Snippet × String) :=
  snippets.filterMap fun snippet => (helpFor help snippet).toOption.map fun line => (snippet, line)

variable {reporter : Reporter (List α) ε} {shown : Snippet → α} {help : String → Except ε String}

/-- A finding is counted in any case. It is kept with its line of help, or the report fails because there is none. -/
theorem Keeps.report_chain (h : reporter.Keeps shown) (seen : List Severity) (kept : List α) (snippet : Snippet) :
    (reporter.withHelp help).counted.report (seen, kept) snippet =
      ((seen ++ [countedSeverity snippet],
        kept ++ (helpedFindings help [snippet]).map fun (snippet, line) => shown (snippet.addHelp line)),
      refusal? help snippet) := by
  cases hhelp : help (snippet.ruleId.getD "") with
  | error problem => simp [counted, withHelp, hhelp, helpedFindings, helpFor, refusal?, Except.toOption]
  | ok line =>
    simp [counted, withHelp, hhelp, helpedFindings, helpFor, refusal?, Except.toOption, h kept, Snippet.addHelp]

/-! ### Many reports -/

/-- All findings are counted, and those are kept for which there is help. -/
theorem Keeps.receive_chain (h : reporter.Keeps shown) (seen : List Severity) (kept : List α)
    (snippets : List Snippet) :
    (reporter.withHelp help).counted.receive (seen, kept) snippets =
      (seen ++ snippets.map countedSeverity,
        kept ++ (helpedFindings help snippets).map fun (snippet, line) => shown (snippet.addHelp line)) := by
  induction snippets generalizing seen kept with
  | nil => simp [receive, helpedFindings]
  | cons snippet rest ih =>
    rw [receive, List.foldl_cons, h.report_chain, ← receive, ih]
    have happend : helpedFindings help (snippet :: rest) =
        helpedFindings help [snippet] ++ helpedFindings help rest := by
      rw [helpedFindings, ← List.singleton_append, List.filterMap_append]
      rfl
    rw [happend, List.map_append, List.map_cons, List.append_assoc, List.append_assoc, List.singleton_append]

theorem count_map_countedSeverity (snippets : List Snippet) (severity : Severity) :
    count (snippets.map countedSeverity) severity =
      snippets.countP fun snippet => snippet.title.severity.getD .error = severity := by
  rw [count, List.count, List.countP_map]
  rfl

/-- Each finding has been counted under one severity. -/
theorem total_eq_length (seen : List Severity) : total seen = seen.length := by
  induction seen with
  | nil => rfl
  | cons severity seen ih =>
    rw [List.length_cons, ← ih]
    cases severity <;> simp [total, count, Severity.all] <;> omega

/-- After any findings have been reported, whether their reports failed or not, what is kept are the findings for which
there is help, in their order: the data and the text of each finding with one line of help below its notes and no other
change. Every finding has been counted under its own severity, as an error if it has none, and the total is the number of
findings. A report fails if and only if the help does, with the same error. -/
theorem chain_keeps_all (help : String → Except ε String) (snippets : List Snippet) :
    let toData := (data.withHelp help).counted
    let toText := (text.withHelp help).counted
    let seen := snippets.map countedSeverity
    toData.receive ([], []) snippets = (seen, (helpedFindings help snippets).map fun (snippet, line) =>
      snippet.dataWithHelp line ("\n".intercalate (snippet.rowsWithHelp line))) ∧
    toText.receive ([], []) snippets = (seen, (helpedFindings help snippets).map fun (snippet, line) =>
      "\n".intercalate (snippet.rowsWithHelp line)) ∧
    (∀ severity, count seen severity =
      snippets.countP fun snippet => snippet.title.severity.getD .error = severity) ∧
    total seen = snippets.length ∧
    ∀ snippet dataState textState, (toData.report dataState snippet).2 = refusal? help snippet ∧
      (toText.report textState snippet).2 = refusal? help snippet := by
  refine ⟨?_, ?_, count_map_countedSeverity snippets, ?_, fun snippet dataState textState => ⟨?_, ?_⟩⟩
  · rw [keeps_data.receive_chain]
    simp only [Snippet.toJsonFormatted_addHelp, List.nil_append]
  · rw [keeps_text.receive_chain]
    simp only [Snippet.render_addHelp, List.nil_append]
  · rw [total_eq_length, List.length_map]
  · exact congrArg Prod.snd (keeps_data.report_chain dataState.1 dataState.2 snippet)
  · exact congrArg Prod.snd (keeps_text.report_chain textState.1 textState.2 snippet)

end Reporter

end ProposalCheck

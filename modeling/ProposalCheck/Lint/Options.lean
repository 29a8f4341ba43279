import ProposalCheck.Lint.Modifier
import ProposalCheck.Rule.Exchange

/-!
# Options

The options of a run say which rules do not run, which only warn and which count in full, and may
replace the standard rules and the standard changes of settings altogether.

## Main definitions

* `LintOptions`: the options of a run
* `LintOptions.ofJson`: the options that data describe, or all problems of the data
-/

namespace ProposalCheck

/-- The options of a run. -/
structure LintOptions where
  allow : List String := []
  warn : List String := []
  deny : List String := []
  /-- The rules in place of the standard ones. -/
  rules : Option (List (String × Rule)) := none
  /-- The changes of settings in place of the standard ones. -/
  modifiers : Option (List SeverityModifier) := none
  deriving DecidableEq, Repr

namespace LintOptions

/-- Reads rules by their names. -/
def rulesOfMembers : List (String × Json) → Checked (List (String × Rule))
  | [] => .ok []
  | (name, value) :: rest =>
    Checked.map2 (fun rule rules => (name, rule) :: rules) ((Rule.ofJson value).within (.name name))
      (rulesOfMembers rest)

/-- Reads an object of rules. -/
def rulesOfJson : Json → Checked (List (String × Rule))
  | .obj members => rulesOfMembers members
  | _ => .fail .dictType

/-- Reads options from the members of an object. -/
def ofMembers (members : List (String × Json)) : Checked LintOptions :=
  let known := ["allow", "warn", "deny", "default_lints", "default_modifiers"]
  let texts := Shape.listOf Shape.text
  (Checked.map5 LintOptions.mk
    (Shape.optional members "allow" [] texts)
    (Shape.optional members "warn" [] texts)
    (Shape.optional members "deny" [] texts)
    (Shape.optional members "default_lints" none (Shape.nullable rulesOfJson))
    (Shape.optional members "default_modifiers" none
      (Shape.nullable (Shape.listOf SeverityModifier.ofJson)))).alsoCheck
        (Shape.unknownMembers known members)

/-- Reads options; no data are no options. -/
def ofJson : Json → Checked LintOptions
  | .obj members => ofMembers members
  | _ => .ok {}

/-- Rules as data. -/
def rulesJson (rules : List (String × Rule)) : Json :=
  .obj (rules.map fun (name, rule) => (name, rule.toJson))

/-- Options as data. -/
def toJson (options : LintOptions) : Json :=
  .obj [("allow", .arr (options.allow.map .str)), ("warn", .arr (options.warn.map .str)),
    ("deny", .arr (options.deny.map .str)),
    ("default_lints", options.rules.elim .null rulesJson),
    ("default_modifiers",
      options.modifiers.elim .null fun all => .arr (all.map SeverityModifier.toJson))]

end LintOptions

end ProposalCheck

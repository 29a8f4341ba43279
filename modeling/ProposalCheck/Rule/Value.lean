import ProposalCheck.Lint.Context
import ProposalCheck.Text.Word

/-!
# Rules about the form of a value

Each of these rules looks at the value of one field of the preamble, the first with its name, and is
silent if there is none. What counts is the value without the blanks around it, except where the rule
is about these blanks.

## Main definitions

* `DateRule`, `UintRule`, `UintListRule`, `LengthRule`, `OneOfRule`, `ListRule`: what a value must be
* `TrimRule`: blanks around all values
* `FileNameRule`: the value is part of the name of the file
* `AuthorRule`: the value names authors
-/

namespace ProposalCheck

/-- A finding about the value of a field. -/
def valueFinding (context : Context) (field : Field) (title label : String)
    (footer : List Note := []) : Finding (List Snippet) := do
  let excerpt ← context.fieldExcerpt field [{ range := field.valueRange, label }]
  return [.about title excerpt footer]

/-- A finding with marks on the line of a field, if there are any. -/
def marksFinding (context : Context) (field : Field) (title : String) (marks : List Mark)
    (footer : List Note := []) : Finding (List Snippet) :=
  if marks.isEmpty then .ok []
  else do return [.about title (← context.fieldExcerpt field marks) footer]

/-- The value is a date of the calendar. -/
structure DateRule where
  name : String
  deriving DecidableEq, Repr

namespace DateRule

/-- The number of days of a month. -/
def daysIn (year month : Nat) : Nat :=
  if month = 2 then
    if year % 4 = 0 && (year % 100 ≠ 0 || year % 400 = 0) then 29 else 28
  else if month = 4 || month = 6 || month = 9 || month = 11 then 30 else 31

/-- Is a text a date of the form `YYYY-MM-DD`? There is no year 0. -/
def isDate (text : List Char) : Bool :=
  match text with
  | [y₁, y₂, y₃, y₄, '-', m₁, m₂, '-', d₁, d₂] =>
    let year := [y₁, y₂, y₃, y₄]
    let month := [m₁, m₂]
    let day := [d₁, d₂]
    (year ++ month ++ day).all Char.isDigit && match decimalNat? year, decimalNat? month,
        decimalNat? day with
      | some year, some month, some day =>
        1 ≤ year && 1 ≤ month && month ≤ 12 && 1 ≤ day && day ≤ daysIn year month
      | _, _, _ => false
  | _ => false

/-- What the rule finds. -/
def check (rule : DateRule) (context : Context) : Finding (List Snippet) :=
  match context.preamble.find? rule.name with
  | none => .ok []
  | some field =>
    if isDate field.trimmed.toList then .ok []
    else valueFinding context field s!"preamble header `{rule.name}` is not a valid date"
      "invalid date" [.help "dates must use the `YYYY-MM-DD` format"]

end DateRule

/-- The number of characters of the value is within bounds. -/
structure LengthRule where
  name : String
  min : Option Nat := none
  max : Option Nat := none
  deriving DecidableEq, Repr

namespace LengthRule

/-- What the rule finds. -/
def check (rule : LengthRule) (context : Context) : Finding (List Snippet) :=
  match context.preamble.find? rule.name with
  | none => .ok []
  | some field =>
    let length := field.trimmed.length
    let problem : Option String :=
      match rule.min.filter (length < ·), rule.max.filter (· < length) with
      | some min, _ => some s!"too short (min. {min})"
      | none, some max => some s!"too long (max. {max})"
      | none, none => none
    match problem with
    | none => .ok []
    | some problem => valueFinding context field
        s!"preamble header `{rule.name}` value is {problem}" s!"{length} characters"

end LengthRule

/-- The value is one of a given list. -/
structure OneOfRule where
  name : String
  values : List String
  deriving DecidableEq, Repr

namespace OneOfRule

/-- What the rule finds. -/
def check (rule : OneOfRule) (context : Context) : Finding (List Snippet) :=
  match context.preamble.find? rule.name with
  | none => .ok []
  | some field =>
    if rule.values.contains field.trimmed then .ok []
    else
      let allowed := joinWith ", " (rule.values.map fun value => s!"`{value}`")
      valueFinding context field s!"preamble header `{rule.name}` has an unrecognized value"
        "unrecognized value" [.help s!"`{rule.name}` must be one of: {allowed}"]

end OneOfRule

/-- The value is a number without sign or leading zeros. -/
structure UintRule where
  name : String
  deriving DecidableEq, Repr

/-- Is a text a number without sign or leading zeros? -/
def isCanonicalNumber (text : List Char) : Bool :=
  !text.isEmpty && text.all Char.isDigit && (text.head? ≠ some '0' || text.length = 1)

namespace UintRule

/-- What the rule finds. -/
def check (rule : UintRule) (context : Context) : Finding (List Snippet) :=
  match context.preamble.find? rule.name with
  | none => .ok []
  | some field =>
    if isCanonicalNumber field.trimmed.toList then .ok []
    else valueFinding context field
      s!"preamble header `{rule.name}` must be a non-negative integer" "not a non-negative integer"

end UintRule

/-- The value is a list of numbers in ascending order. -/
structure UintListRule where
  name : String
  deriving DecidableEq, Repr

namespace UintListRule

/-- Marks for the items that are no numbers, or not larger than all numbers before them, the largest
of which is `previous`. -/
def marksFrom (previous : Option Nat) : List (String × Span) → List Mark
  | [] => []
  | (text, range) :: rest =>
    if !isCanonicalNumber text.toList then
      { range, label := "not a non-negative integer" } :: marksFrom previous rest
    else
      let number := (decimalNat? text.toList).getD 0
      if previous.any (number ≤ ·) then
        { range, label := "items must be unique and in ascending order" } :: marksFrom previous rest
      else marksFrom (some number) rest

/-- What the rule finds. -/
def check (rule : UintListRule) (context : Context) : Finding (List Snippet) :=
  match context.preamble.find? rule.name with
  | none => .ok []
  | some field => marksFinding context field
      s!"preamble header `{rule.name}` must be a sorted list of non-negative integers"
      (marksFrom none (field.items ","))

end UintListRule

/-- The value is a list with a comma and a space between nonempty items. -/
structure ListRule where
  name : String
  deriving DecidableEq, Repr

namespace ListRule

/-- What the rule finds. -/
def check (rule : ListRule) (context : Context) : Finding (List Snippet) :=
  match context.preamble.find? rule.name with
  | none => .ok []
  | some field =>
    if field.trimmed = "" then .ok []
    else
      let items := field.items ","
      let empty : List Mark := (items.filter (·.1 = "")).map fun (_, range) =>
        { range, label := "empty item" }
      let spacing : List Mark :=
        if empty.isEmpty && joinWith ", " (items.map (·.1)) ≠ field.trimmed then
          [{ range := field.valueRange, label := "items must be separated by `, `" }]
        else []
      marksFinding context field s!"preamble header `{rule.name}` is a malformed list"
        (empty ++ spacing) [.help "use the form `a, b, c`"]

end ListRule

/-- Values follow the colon after one space, and nothing follows them. -/
structure TrimRule where
  deriving DecidableEq, Repr

namespace TrimRule

/-- Marks for the blanks before and after the value of a field. -/
def marks (field : Field) : List Mark :=
  let leading := leadingBlanks field.value
  let trailing := trailingBlanks field.value
  let stop := field.source.utf8ByteSize
  let before : List Mark :=
    if field.trimmed = "" || leading = " " then []
    else [{
      range := ⟨field.valueOffset, field.valueOffset + leading.utf8ByteSize⟩
      label := "value must follow the colon after a single space" }]
  let after : List Mark :=
    if trailing = "" then []
    else [{ range := ⟨stop - trailing.utf8ByteSize, stop⟩, label := "trailing whitespace" }]
  before ++ after

/-- What the rule finds. -/
def check (_ : TrimRule) (context : Context) : Finding (List Snippet) := do
  let found ← context.preamble.fields.mapM fun field =>
    marksFinding context field
      s!"preamble header `{trim field.name}` has extra or missing whitespace" (marks field)
  return found.flatten

end TrimRule

/-- The file is named by the value with a prefix and a suffix. -/
structure FileNameRule where
  name : String
  filePrefix : String
  suffix : String
  deriving DecidableEq, Repr

namespace FileNameRule

/-- The last name of a path in which both kinds of slashes separate names. -/
def fileName (path : String) : String :=
  let path := path.toList.map fun c => if c = '\\' then '/' else c
  let names := (Path.names path).filter fun name => name ≠ [] && name ≠ ['.']
  String.ofList (names.getLast?.getD [])

/-- What the rule finds. -/
def check (rule : FileNameRule) (context : Context) : Finding (List Snippet) :=
  match context.document.origin, context.preamble.find? rule.name with
  | some origin, some field =>
    let expected := rule.filePrefix ++ field.trimmed ++ rule.suffix
    let actual := fileName origin
    if actual = expected then .ok []
    else valueFinding context field
      s!"file name `{actual}` does not match preamble header `{rule.name}`" "this value"
      [.help s!"this file should be named `{expected}`"]
  | _, _ => .ok []

end FileNameRule

/-- The value lists authors, at least one of them with a user name. -/
structure AuthorRule where
  name : String
  deriving DecidableEq, Repr

namespace AuthorRule

/-- What an entry tells about an author. -/
inductive Entry where
  | unrecognized
  | withHandle
  | withoutHandle
  deriving DecidableEq, Repr

/-- Is a text a mail address in angle brackets? -/
def isMail (text : List Char) : Bool :=
  let isPart := fun (part : List Char) =>
    !part.isEmpty && part.all fun c => !(isBlank c || c = '<' || c = '>')
  match text with
  | '<' :: rest =>
    rest.getLast? = some '>' && match splitWhere (· = '@') rest.dropLast with
      | [name, host] => isPart name && isPart host
      | _ => false
  | _ => false

/-- Is a character part of a user name? -/
def isHandleChar (c : Char) : Bool := c.isAlpha || isDecimalDigit c || c = '-'

/-- Reads an entry: a name and a space, then `(@user)`, a mail address or both. -/
def readEntry (text : List Char) : Entry :=
  let name := text.takeWhile fun c => !(['(', ')', '<', '>', ',', '@'].contains c)
  if name.length < 2 || name.getLast? ≠ some ' ' then .unrecognized
  else match text.drop name.length with
    | '(' :: '@' :: rest =>
      let handle := rest.takeWhile isHandleChar
      match handle, rest.drop handle.length with
      | _ :: _, [')'] => .withHandle
      | _ :: _, ')' :: ' ' :: mail => if isMail mail then .withHandle else .unrecognized
      | _, _ => .unrecognized
    | rest => if isMail rest then .withoutHandle else .unrecognized

/-- What the rule finds. -/
def check (rule : AuthorRule) (context : Context) : Finding (List Snippet) :=
  match context.preamble.find? rule.name with
  | none => .ok []
  | some field =>
    if field.trimmed = "" then .ok []
    else do
      let entries := ((field.items ",").filter (·.1 ≠ "")).map fun (text, range) =>
        (readEntry text.toList, range)
      let marks : List Mark := (entries.filter (·.1 = .unrecognized)).map fun (_, range) =>
        { range, label := "unrecognized author" }
      let unrecognized ← marksFinding context field
        s!"authors in preamble header `{rule.name}` must match the expected format" marks
        [.help "use `Name (@username)`, `Name <email>` or `Name (@username) <email>`"]
      -- one author with a name of an account is enough
      if entries.any (·.1 = .withHandle) then return unrecognized
      let anonymous ← valueFinding context field
        s!"preamble header `{rule.name}` must contain at least one GitHub username"
        "no `(@username)` given"
      return unrecognized ++ anonymous

end AuthorRule

end ProposalCheck

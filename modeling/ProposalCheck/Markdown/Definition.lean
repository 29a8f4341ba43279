import ProposalCheck.Markdown.BlockStart

/-!
# Link definitions

A definition gives a label a destination: `[label]: destination "title"`. It may run over several
rows, as a paragraph would, and each part may start on the next row. Rows are added to the text that
is read whenever a part reaches its end.

## Main definitions

* `BlockScope.definition?`: the definition that a row starts
-/

namespace ProposalCheck.Markdown

/-- The text of a definition as far as it has been needed, and the row that would be added next. -/
structure DefinitionText where
  chars : Array Char
  next : Nat

/-- A definition and the row after it. -/
structure Definition where
  label : String
  destination : String
  next : Nat

namespace BlockScope

variable (scope : BlockScope)

/-- The text of a row, with its line end, if the row continues a definition. -/
def continuation? (line : Nat) : Option (List Char) :=
  if line ≥ scope.stop || scope.isEmpty line then none
  else
    let row := scope.row line
    if !scope.isCode line && row.indent ≥ 0 && scope.endsParagraph line scope.stop false then none
    else some (sliceOf scope.text row.start (row.last + 1))

/-- Adds the next row to a definition, if it continues it. -/
def extend? (text : DefinitionText) : Option DefinitionText :=
  (scope.continuation? text.next).map fun more =>
    ⟨text.chars ++ more.toArray, text.next + 1⟩

/-- Adds the next row to a definition if there is a line end at `place`. -/
def extendAt (text : DefinitionText) (place : Nat) : DefinitionText :=
  if text.chars[place]? = some '\n' then (scope.extend? text).getD text else text

/-- The place of the bracket that closes a label. -/
def labelStop? : Nat → DefinitionText → Nat → Option (Nat × DefinitionText)
  | 0, _, _ => none
  | fuel + 1, text, place =>
    match text.chars[place]? with
    | none => none
    | some '[' => none
    | some ']' => some (place, text)
    | some '\\' =>
      labelStop? fuel (scope.extendAt text (place + 1)) (place + 2)
    | some _ => labelStop? fuel (scope.extendAt text place) (place + 1)

/-- Skips spaces, tabs and line ends. -/
def skipGapRows : Nat → DefinitionText → Nat → Nat × DefinitionText
  | 0, text, place => (place, text)
  | fuel + 1, text, place =>
    match text.chars[place]? with
    | some c =>
      if isGap c || c = '\n' then skipGapRows fuel (scope.extendAt text place) (place + 1)
      else (place, text)
    | none => (place, text)

/-- Scans for a title, which may run over several rows. Gives the last place at which a row has been
entered, too. -/
def titleRows : Nat → TitleScan → DefinitionText → Nat → TitleScan × DefinitionText × Nat
  | fuel + 1, .unfinished closing, text, place =>
    match scope.extend? text with
    | none => (.unfinished closing, text, place)
    | some longer =>
      let start := text.chars.size
      let stop := longer.chars.size
      titleRows fuel (titleEnd longer.chars start stop closing false (stop - start) start) longer start
  | _, scan, text, place => (scan, text, place)

/-- Skips spaces and tabs, and tells whether the row ends there. -/
def endsAt (text : DefinitionText) (place : Nat) : Bool :=
  let place := skipWhile isGap text.chars place (text.chars.size - place)
  match text.chars[place]? with
  | some c => c = '\n'
  | none => true

/-- The row after a definition whose destination ends at `place`. A title that something follows is
none, but an empty one cannot be given up. -/
def afterDestination? (fuel : Nat) (text : DefinitionText) (place : Nat) : Option Nat :=
  let withoutTitle := fun (longer : DefinitionText) =>
    if endsAt longer place then some text.next else none
  let (start, longer) := scope.skipGapRows fuel text place
  let (scan, longer, start) :=
    scope.titleRows fuel (titleAt longer.chars start longer.chars.size) longer start
  match scan with
  | .found isEmpty stop =>
    if start < longer.chars.size && start ≠ place then
      if endsAt longer stop then some longer.next
      else if isEmpty then none else withoutTitle longer
    else withoutTitle longer
  | _ => withoutTitle longer

/-- The definition that a row starts. -/
def definition? (line : Nat) : Option Definition :=
  let row := scope.row line
  if scope.isCode line || scope.text[row.start]? ≠ some '[' then none
  else
    let fuel := scope.text.size + 1
    let text : DefinitionText :=
      ⟨scope.text.extract row.start (row.last + 1), line + 1⟩
    match scope.labelStop? fuel text 1 with
    | none => none
    | some (stop, text) =>
      if text.chars[stop + 1]? ≠ some ':' then none
      else
        let (place, text) := scope.skipGapRows fuel text (stop + 2)
        match destinationAt? text.chars place text.chars.size with
        | none => none
        | some (written, place) =>
          let destination := Destination.normalize written
          let label := normalizeLabel (sliceOf text.chars 1 stop)
          if !Destination.isSafe destination || label = "" then none
          else (scope.afterDestination? fuel text place).map (⟨label, destination, ·⟩)

end BlockScope

end ProposalCheck.Markdown

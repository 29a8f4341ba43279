import ProposalCheck.Json.Decode
import ProposalCheck.Yaml.Cursor

/-!
# Scalars and names as they are written

A scalar is written plainly, in quotes of either kind, or as a block of lines below a `|` or `>`. A line
end within a scalar counts as a blank, and each further one as a line end, unless the scalar is a block
that keeps its lines.

## Main definitions

* `YamlProblem`: why a text is not YAML
* `plainScalar`, `quotedScalar`, `blockScalar`: scalars at the front of a text
* `nameAt`: the name of an anchor or an alias
-/

namespace ProposalCheck.Yaml

/-- Why a text is not YAML. -/
inductive YamlProblem where
  /-- A character that no text may hold. -/
  | character (c : Char)
  /-- A character that starts nothing. -/
  | unexpected (c : Char)
  /-- The text ends within a scalar in quotes. -/
  | unclosedQuote
  /-- A mark between documents stands within a scalar in quotes. -/
  | separatorInQuote
  /-- A character that has no meaning after a backslash. -/
  | escape (c : Char)
  /-- An anchor or alias without a name, or a tag that is not well formed. -/
  | name
  /-- The head of a block of lines is not well formed. -/
  | blockHead
  /-- A directive is not well formed. -/
  | directive
  /-- A key has to be followed by a colon on its line. -/
  | missingColon
  /-- A key, value or entry stands where none may be. -/
  | misplaced
  /-- The tokens do not fit together. -/
  | arrangement
  /-- An alias that names nothing. -/
  | unknownAlias (name : String)
  /-- More than one document. -/
  | manyDocuments
  /-- A key comes twice. -/
  | duplicateKey
  /-- A value that does not have the form of its tag. -/
  | value
  deriving DecidableEq, Repr

/-- A part of a text that was read, with the cursor after it. -/
abbrev Reading (α : Type) := Except YamlProblem (α × Cursor)

/-- A line end and those that follow it, as part of a scalar. -/
def foldBreaks (first : Char) (more : List Char) : List Char :=
  if first ≠ '\n' then first :: more else if more.isEmpty then [' '] else more

/-- Further line ends within a scalar in quotes, with the blanks in front of them. -/
def quotedBreaks : Nat → Cursor → Reading (List Char)
  | 0, cursor => .ok ([], cursor)
  | fuel + 1, cursor =>
    if cursor.isAtSeparator then .error .separatorInQuote
    else
      let cursor := cursor.skipWhile isSpaceOrTab
      match cursor.lineBreak? with
      | none => .ok ([], cursor)
      | some (c, cursor) => (quotedBreaks fuel cursor).map fun (more, cursor) => (c :: more, cursor)

/-- What a character stands for after a backslash. -/
def escaped? (c : Char) : Option Char :=
  [('0', '\x00'), ('a', '\x07'), ('b', '\x08'), ('t', '\t'), ('\t', '\t'), ('n', '\n'), ('v', '\x0b'),
    ('f', '\x0c'), ('r', '\r'), ('e', '\x1b'), (' ', ' '), ('"', '"'), ('/', '/'), ('\\', '\\'),
    ('N', '\x85'), ('_', '\xa0'), ('L', '\u2028'), ('P', '\u2029')].lookup c

/-- How many hexadecimal digits follow a character after a backslash. -/
def escapeDigits? (c : Char) : Option Nat := [('x', 2), ('u', 4), ('U', 8)].lookup c

/-- The character with a code. Half of a surrogate pair has a stand-in, as in JSON. -/
def charOfCode (code : Nat) : Char :=
  if 0xD800 ≤ code ∧ code ≤ 0xDFFF then Json.surrogateStandIn code else Char.ofNat code

/-- What stands after a backslash in a scalar in double quotes. -/
def escapeAt (cursor : Cursor) : Reading (List Char) :=
  let c := cursor.peek
  match escaped? c, escapeDigits? c, cursor.lineBreak? with
  | some value, _, _ => .ok ([value], cursor.next)
  | none, some count, _ =>
    let digits := cursor.next.rest.take count
    if digits.length = count ∧ digits.all fun d => (hexDigit? d).isSome then
      .ok ([charOfCode (hexValue digits)], cursor.next.skip count)
    else .error (.escape c)
  | none, none, some (_, after) => quotedBreaks after.rest.length after
  | none, none, none => .error (.escape c)

/-- The text of a scalar in quotes up to its closing quote. -/
def quotedText (quote : Char) : Nat → Cursor → Except YamlProblem (List Char × Cursor)
  | 0, _ => .error .unclosedQuote
  | fuel + 1, cursor =>
    let goOn := fun (text : List Char) (cursor : Cursor) =>
      (quotedText quote fuel cursor).map fun (more, cursor) => (text ++ more, cursor)
    match cursor.rest with
    | [] => .error .unclosedQuote
    | c :: rest =>
      -- two single quotes stand for one
      if c = '\'' && quote = '\'' && rest.head? = some '\'' then goOn ['\''] (cursor.skip 2)
      else if c = quote then .ok ([], cursor.next)
      else if c = '\\' && quote = '"' then do
        let (text, cursor) ← escapeAt cursor.next
        goOn text cursor
      else if isSpaceOrTab c || isBreak c then
        let blanks := cursor.takeWhile isSpaceOrTab
        let cursor := cursor.skip blanks.length
        match cursor.lineBreak? with
        -- blanks within a line are kept, and those before a line end are not
        | none => goOn blanks cursor
        | some (first, cursor) => do
          let (more, cursor) ← quotedBreaks cursor.rest.length cursor
          goOn (foldBreaks first more) cursor
      else goOn [c] cursor.next

/-- A scalar in quotes; the cursor stands on its opening quote. -/
def quotedScalar (cursor : Cursor) : Reading String :=
  (quotedText cursor.peek (cursor.rest.length + 1) cursor.next).map fun (text, cursor) =>
    (String.ofList text, cursor)

/-- Brackets, braces and the comma. -/
def isFlowMark (c : Char) : Bool := [',', '[', ']', '{', '}'].contains c

/-- The characters of a plain scalar up to a blank, a mark or a colon before a blank. -/
def plainChunk (inFlow : Bool) : List Char → List Char
  | [] => []
  | c :: rest =>
    if c = ':' then
      if isEdge (rest.headD endMark) then [] else c :: plainChunk inFlow rest
    else if isEdge c || (inFlow && isFlowMark c) then []
    else c :: plainChunk inFlow rest

/-- Line ends within a plain scalar, with the spaces around them; `none` before a mark between
documents. -/
def plainBreaks : Nat → Cursor → Option (List Char) × Cursor
  | 0, cursor => (some [], cursor)
  | fuel + 1, cursor =>
    if cursor.isAtSeparator then (none, cursor)
    else
      let cursor := cursor.skipWhile (· = ' ')
      match cursor.lineBreak? with
      | none => (some [], cursor)
      | some (c, cursor) =>
        let (more, cursor) := plainBreaks fuel cursor
        (more.map (c :: ·), cursor)

/-- The blanks after a piece of a plain scalar: what they count as, and whether a line ended. -/
def plainSpaces (cursor : Cursor) : List Char × Bool × Cursor :=
  let spaces := cursor.takeWhile (· = ' ')
  let cursor := cursor.skip spaces.length
  match cursor.lineBreak? with
  | none => (spaces, false, cursor)
  | some (first, cursor) =>
    let (more, cursor) := plainBreaks cursor.rest.length cursor
    ((more.map (foldBreaks first)).getD [], true, cursor)

/-- A plain scalar as it was read: its text and whether a line ended behind it. -/
structure PlainText where
  text : List Char
  endsLine : Bool := false

/-- A plain scalar. `spaces` is what stood before the cursor within the scalar. Outside of brackets
the lines of a scalar are indented by at least `indent` columns. -/
def plainText (inFlow : Bool) (indent : Int) : Nat → List Char → Bool → Cursor → PlainText × Cursor
  | 0, _, endsLine, cursor => (⟨[], endsLine⟩, cursor)
  | fuel + 1, spaces, endsLine, cursor =>
    let chunk := if cursor.peek = '#' then [] else plainChunk inFlow cursor.rest
    if chunk.isEmpty then (⟨[], endsLine⟩, cursor)
    else
      let (after, endsLine, cursor) := plainSpaces (cursor.skip chunk.length)
      if after.isEmpty || cursor.peek = '#' || (!inFlow && (cursor.place.column : Int) < indent) then
        (⟨spaces ++ chunk, endsLine⟩, cursor)
      else
        let (more, cursor) := plainText inFlow indent fuel after endsLine cursor
        ({ more with text := spaces ++ chunk ++ more.text }, cursor)

/-- A plain scalar. -/
def plainScalar (inFlow : Bool) (indent : Int) (cursor : Cursor) : PlainText × Cursor :=
  plainText inFlow indent cursor.rest.length [] false cursor

/-- What becomes of the line ends after the last line of a block. -/
inductive Chomping where
  | clip
  | keep
  | strip
  deriving DecidableEq, Repr

/-- The mark for the line ends after the last line. -/
def chomping? (c : Char) : Option Chomping := [('+', Chomping.keep), ('-', .strip)].lookup c

/-- The number of columns by which a block is indented further. -/
def indentation? (c : Char) : Option Nat :=
  if '1' ≤ c ∧ c ≤ '9' then some (c.toNat - '0'.toNat) else none

/-- The marks in the head of a block, in either order. -/
def blockMarks (cursor : Cursor) : Reading (Chomping × Option Nat) :=
  let c := cursor.peek
  match chomping? c, indentation? c with
  | some chomping, _ => match indentation? cursor.next.peek with
    | some width => .ok ((chomping, some width), cursor.skip 2)
    | none => if cursor.next.peek = '0' then .error .blockHead else .ok ((chomping, none), cursor.next)
  | none, some width => match chomping? cursor.next.peek with
    | some chomping => .ok ((chomping, some width), cursor.skip 2)
    | none => .ok ((.clip, some width), cursor.next)
  | none, none => if c = '0' then .error .blockHead else .ok ((.clip, none), cursor)

/-- Passes what is left of the line of a head. -/
def restOfHead (cursor : Cursor) : Except YamlProblem Cursor :=
  let cursor := cursor.skipWhile (· = ' ')
  let cursor :=
    if cursor.peek = '#' then cursor.skipWhile (!isLineEnd ·) else cursor
  if cursor.rest.isEmpty then .ok cursor
  else if !isLineEnd cursor.peek then .error .blockHead
  else .ok ((cursor.lineBreak?.map (·.2)).getD cursor)

/-- Empty lines at the start of a block, and the widest indentation seen. -/
def blockStart : Nat → Nat → Cursor → List Char × Nat × Cursor
  | 0, widest, cursor => ([], widest, cursor)
  | fuel + 1, widest, cursor =>
    let cursor := cursor.skipWhile (· = ' ')
    let widest := max widest cursor.place.column
    match cursor.lineBreak? with
    | none => ([], widest, cursor)
    | some (c, cursor) =>
      let (more, widest, cursor) := blockStart fuel widest cursor
      (c :: more, widest, cursor)

/-- Passes spaces up to a column. -/
def skipIndent (indent : Nat) (cursor : Cursor) : Cursor :=
  let spaces := (cursor.takeWhile (· = ' ')).length
  cursor.skip (min spaces (indent - cursor.place.column))

/-- Empty lines within a block. -/
def blockBreaks (indent : Nat) : Nat → Cursor → List Char × Cursor
  | 0, cursor => ([], cursor)
  | fuel + 1, cursor =>
    let cursor := skipIndent indent cursor
    match cursor.lineBreak? with
    | none => ([], cursor)
    | some (c, cursor) =>
      let (more, cursor) := blockBreaks indent fuel cursor
      (c :: more, cursor)

/-- The lines of a block. `breaks` are the empty lines before the cursor. What comes back last are the
line end of the last line and the empty lines after it. -/
def blockLines (folded : Bool) (indent : Nat) :
    Nat → List Char → Cursor → List Char × List Char × List Char × Cursor
  | 0, breaks, cursor => ([], [], breaks, cursor)
  | fuel + 1, breaks, cursor =>
    if cursor.place.column ≠ indent || cursor.rest.isEmpty then ([], [], breaks, cursor)
    else
      let startsDark := !isSpaceOrTab cursor.peek
      let line := cursor.takeWhile (!isLineEnd ·)
      let cursor := cursor.skip line.length
      let (lineEnd, cursor) := match cursor.lineBreak? with
        | some (c, cursor) => ([c], cursor)
        | none => ([], cursor)
      let (more, cursor) := blockBreaks indent cursor.rest.length cursor
      let stops := cursor.place.column ≠ indent || cursor.rest.isEmpty
        || (indent = 0 && cursor.isAtSeparator)
      if stops then (breaks ++ line, lineEnd, more, cursor)
      else
        let joint :=
          -- between two lines of text a line end becomes a space, and nothing if empty lines follow
          if folded && lineEnd = ['\n'] && startsDark && !isSpaceOrTab cursor.peek then
            if more.isEmpty then [' '] else []
          else lineEnd
        let (text, last, after, cursor) := blockLines folded indent fuel more cursor
        (breaks ++ line ++ joint ++ text, last, after, cursor)

/-- A block of lines; the cursor stands on its `|` or `>`. `indent` is the indentation of what is
around it. -/
def blockScalar (indent : Int) (cursor : Cursor) : Except YamlProblem (String × Cursor) := do
  let folded := cursor.peek = '>'
  let ((chomping, width), cursor) ← blockMarks cursor.next
  let cursor ← restOfHead cursor
  let least := (indent + 1).toNat
  let (breaks, column, cursor) := match width with
    | none =>
      -- without a given width the lines themselves say how far in they are
      let (breaks, widest, cursor) := blockStart (cursor.rest.length + 1) 0 cursor
      (breaks, max least widest, cursor)
    | some width =>
      let column := max least 1 + width - 1
      let (breaks, cursor) := blockBreaks column (cursor.rest.length + 1) cursor
      (breaks, column, cursor)
  let (text, last, after, cursor) :=
    blockLines folded column (cursor.rest.length + 1) breaks cursor
  let text := match chomping with
    | .clip => text ++ last
    | .keep => text ++ last ++ after
    | .strip => text
  return (String.ofList text, cursor)

/-- The name of an anchor or an alias; the cursor stands on its mark. -/
def nameAt (cursor : Cursor) : Reading String :=
  let name := cursor.next.takeWhile fun c => !(isEdge c || isFlowMark c)
  if name.isEmpty then .error .name
  else .ok (String.ofList name, cursor.next.skip name.length)

/-- A tag: a handle with a suffix, or all of it in angle brackets. -/
structure Tag where
  handle : Option String
  suffix : String
  deriving DecidableEq, Repr

/-- A tag; the cursor stands on its mark. -/
def tagAt (cursor : Cursor) : Reading Tag :=
  let written := cursor.takeWhile fun c => !isEdge c
  match written with
  | '!' :: '<' :: rest =>
    let uri := rest.takeWhile (· ≠ '>')
    if uri.isEmpty || uri.length + 1 ≠ rest.length then .error .name
    else .ok (⟨none, String.ofList uri⟩, cursor.skip written.length)
  | _ =>
    let written := cursor.next.takeWhile fun c => !(isEdge c || isFlowMark c)
    let handle := written.takeWhile fun c => c.isAlphanum || c = '-' || c = '_'
    match written.drop handle.length with
    | '!' :: suffix =>
      let handle := "!" ++ String.ofList handle ++ "!"
      if suffix.isEmpty then .error .name
      else .ok (⟨some handle, String.ofList suffix⟩, cursor.skip (written.length + 1))
    | _ => .ok (⟨some "!", String.ofList written⟩, cursor.skip (written.length + 1))

end ProposalCheck.Yaml

import ProposalCheck.Text.Blank
import ProposalCheck.Text.CodeTable
import ProposalCheck.Text.Quoted
import ProposalCheck.Text.Word

/-!
# Templates for lines of help

A template is a text with fields between braces that stand for the name of a rule. A brace that is text
is written twice. A field has the name `id`, perhaps an index of a character, a conversion to a quoted
form after `!`, and a layout after `:` which may hold fields itself.

## Main definitions

* `TemplateFault`: why a template has no text
* `Layout`: how a text is cut and filled up
* `fillTemplate`: the text of a template for a name
-/

namespace ProposalCheck

/-- Why a template has no text. -/
inductive TemplateFault where
  | loneOpening
  | loneClosing
  | openingInField
  | openField
  | openLayout
  | noConversion
  | afterConversion
  | unknownConversion (letter : Char)
  /-- A field is given by its place instead of its name. -/
  | place (index : Nat)
  | unknownName (name : String)
  /-- Only texts and not their characters have the part that is asked for. -/
  | noAttribute
  | noIndex
  | noCharacter
  | emptyPart
  | openIndex
  | afterIndex
  | tooManyDigits
  | tooDeep
  | badLayout (layout : String)
  | badType (letter : Char)
  | badSeparator (mark letter : Char)
  | twoSeparators
  | noPrecision
  | space
  | sign
  | negativeZero
  | alternate
  | signAlignment
  deriving DecidableEq, Repr

namespace TemplateFault

/-- A character in a message: itself if it is visible, else its code. -/
def shown (letter : Char) (quote : String) : String :=
  if ' ' < letter ∧ letter < '\x7f' then quote ++ letter.toString ++ quote
  else quote ++ "\\x" ++ String.ofList (Nat.toDigits 16 letter.toNat) ++ quote

/-- The wording of a fault. -/
def message : TemplateFault → String
  | .loneOpening => "Single '\x7b' encountered in format string"
  | .loneClosing => "Single '\x7d' encountered in format string"
  | .openingInField => "unexpected '\x7b' in field name"
  | .openField => "expected '\x7d' before end of string"
  | .openLayout => "unmatched '\x7b' in format spec"
  | .noConversion => "end of string while looking for conversion specifier"
  | .afterConversion => "expected ':' after conversion specifier"
  | .unknownConversion letter => "Unknown conversion specifier " ++ shown letter ""
  | .place index => s!"Replacement index {index} out of range for positional args tuple"
  | .unknownName name => quoted name
  | .noAttribute => "no such attribute"
  | .noIndex => "string indices must be integers"
  | .noCharacter => "string index out of range"
  | .emptyPart => "Empty attribute in format string"
  | .openIndex => "Missing ']' in format string"
  | .afterIndex => "Only '.' or '[' may follow ']' in format field specifier"
  | .tooManyDigits => "Too many decimal digits in format string"
  | .tooDeep => "Max string recursion exceeded"
  | .badLayout layout => s!"Invalid format specifier '{layout}' for object of type 'str'"
  | .badType letter => "Unknown format code " ++ shown letter "'" ++ " for object of type 'str'"
  | .badSeparator mark letter => s!"Cannot specify '{mark}' with " ++ shown letter "'" ++ "."
  | .twoSeparators => "Cannot specify both ',' and '_'."
  | .noPrecision => "Format specifier missing precision"
  | .space => "Space not allowed in string format specifier"
  | .sign => "Sign not allowed in string format specifier"
  | .negativeZero => "Negative zero coercion (z) not allowed in string format specifier"
  | .alternate => "Alternate form (#) not allowed in string format specifier"
  | .signAlignment => "'=' alignment not allowed in string format specifier"

end TemplateFault

/-- The largest number that a template may hold. -/
def largestTemplateNumber : Nat := 9223372036854775807

/-- The number at the front of a text, and what follows it. -/
def templateNumber (value : Nat) : List Char → Except TemplateFault (Nat × List Char)
  | [] => .ok (value, [])
  | c :: rest => match decimalValue? c with
    | none => .ok (value, c :: rest)
    | some digit =>
      if largestTemplateNumber < value * 10 + digit then .error .tooManyDigits
      else templateNumber (value * 10 + digit) rest

/-- The number that a whole text denotes, if it denotes one. -/
def templateIndex? (text : List Char) : Except TemplateFault (Option Nat) := do
  let (value, rest) ← templateNumber 0 text
  return if text ≠ [] ∧ rest = [] then some value else none

/-- How a text is cut and filled up. -/
structure Layout where
  fill : Char := ' '
  align : Char := '<'
  width : Nat := 0
  precision : Option Nat := none
  deriving DecidableEq, Repr

namespace Layout

/-- Does a character say where a text stands within its width? -/
def isAlignment (c : Char) : Bool := ['<', '>', '=', '^'].contains c

/-- The filling character and the alignment at the front of a layout. -/
def alignment (text : List Char) : Option Char × Option Char × List Char :=
  match text with
  | first :: second :: rest =>
    if isAlignment second then (some first, some second, rest)
    else if isAlignment first then (none, some first, second :: rest)
    else (none, none, text)
  | [first] => if isAlignment first then (none, some first, []) else (none, none, text)
  | [] => (none, none, [])

/-- Passes a mark at the front of a text. -/
def mark (marks : List Char) (text : List Char) : Option Char × List Char :=
  match text with
  | c :: rest => if marks.contains c then (some c, rest) else (none, text)
  | [] => (none, [])

/-- The precision at the front of a text. -/
def precisionPart (text : List Char) : Except TemplateFault (Option Nat × List Char) := do
  match text with
  | '.' :: digits =>
    let (value, rest) ← templateNumber 0 digits
    if rest.length = digits.length then throw .noPrecision
    return (some value, rest)
  | _ => return (none, text)

/-- Reads a layout for a text. -/
def ofText (text : List Char) : Except TemplateFault Layout := do
  let (fill, align, rest) := alignment text
  let (sign, rest) := mark [' ', '+', '-'] rest
  let (zero, rest) := mark ['z'] rest
  let (alternate, rest) := mark ['#'] rest
  let (zeros, rest) := if fill.isSome then (none, rest) else mark ['0'] rest
  let (width, rest) ← templateNumber 0 rest
  let (comma, rest) := mark [','] rest
  let (underscore, rest) := mark ['_'] rest
  if comma.isSome ∧ underscore.isSome then throw .twoSeparators
  if underscore.isSome ∧ rest.head? = some ',' then throw .twoSeparators
  let (precision, rest) ← precisionPart rest
  let type ← match rest with
    | [] => pure 's'
    | [letter] => pure letter
    | _ => throw (.badLayout (String.ofList text))
  -- the first fault in this order is the one that is reported
  match comma.orElse (fun _ => underscore) with
  | some separator =>
    let numeric := "defgEG%F\x00".toList ++ (if separator = '_' then "boxX".toList else [])
    if !numeric.contains type then throw (.badSeparator separator type)
  | none => pure ()
  if type ≠ 's' then throw (.badType type)
  match sign with
  | some ' ' => throw .space
  | some _ => throw .sign
  | none => pure ()
  if zero.isSome then throw .negativeZero
  if alternate.isSome then throw .alternate
  if align = some '=' then throw .signAlignment
  return { fill := (fill.orElse fun _ => zeros).getD ' ', align := align.getD '<', width, precision }

/-- Lays out a text. -/
def apply (layout : Layout) (text : List Char) : List Char :=
  let cut := match layout.precision with
    | some precision => text.take precision
    | none => text
  let missing := layout.width - cut.length
  let before := if layout.align = '>' then missing else if layout.align = '^' then missing / 2 else 0
  List.replicate before layout.fill ++ cut ++ List.replicate (missing - before) layout.fill

end Layout

namespace Template

/-- A field between braces. -/
structure Field where
  name : List Char
  conversion : Option Char := none
  layout : List Char := []
  deriving DecidableEq, Repr

/-- The name of a field up to the mark that ends it, the mark, and what follows it. Nothing ends the name
within brackets. -/
def scanName (inIndex : Bool) (name : List Char) :
    List Char → Except TemplateFault (List Char × Char × List Char)
  | [] => .error .openField
  | c :: rest =>
    if inIndex then scanName (c ≠ ']') (c :: name) rest
    else if c = '\x7b' then .error .openingInField
    else if c = '\x7d' ∨ c = ':' ∨ c = '!' then .ok (name.reverse, c, rest)
    else scanName (c = '[') (c :: name) rest

/-- The layout up to the brace that closes its field. -/
def scanLayout (depth : Nat) (layout : List Char) : List Char → Except TemplateFault (List Char × List Char)
  | [] => .error .openLayout
  | c :: rest =>
    if c = '\x7b' then scanLayout (depth + 1) (c :: layout) rest
    else if c = '\x7d' then
      match depth with
      | 0 => .ok (layout.reverse, rest)
      | depth + 1 => scanLayout depth (c :: layout) rest
    else scanLayout depth (c :: layout) rest

/-- Reads a field after its opening brace, and what follows it. -/
def scanField (text : List Char) : Except TemplateFault (Field × List Char) := do
  let (name, stop, rest) ← scanName false [] text
  if stop = '\x7d' then return ({ name }, rest)
  else if stop = ':' then
    let (layout, rest) ← scanLayout 0 [] rest
    return ({ name, layout }, rest)
  else match rest with
    | [] => throw .noConversion
    | letter :: rest => match rest with
      | '\x7d' :: rest => return ({ name, conversion := some letter }, rest)
      | ':' :: rest =>
        let (layout, rest) ← scanLayout 0 [] rest
        return ({ name, conversion := some letter, layout }, rest)
      | [] => throw .openLayout
      | _ => throw .afterConversion

/-- Follows the parts after the name of a field. The first argument bounds their number. -/
def follow : Nat → List Char → List Char → Except TemplateFault (List Char)
  | _, value, [] => .ok value
  | 0, value, _ => .ok value
  | fuel + 1, value, mark :: rest =>
    if mark = '[' then do
      let index := rest.takeWhile (· ≠ ']')
      if index.length = rest.length then throw .openIndex
      let number ← templateIndex? index
      if index = [] then throw .emptyPart
      match number with
      | none => throw .noIndex
      | some number => match value[number]? with
        | some c => follow fuel [c] (rest.drop (index.length + 1))
        | none => throw .noCharacter
    else if mark = '.' then
      if (rest.takeWhile fun c => c ≠ '.' && c ≠ '[') = [] then throw .emptyPart
      else throw .noAttribute
    else throw .afterIndex

/-- The value of a field. -/
def valueOf (id : List Char) (name : List Char) : Except TemplateFault (List Char) := do
  let first := name.takeWhile fun c => c ≠ '.' && c ≠ '['
  let number ← templateIndex? first
  if first = [] then throw (.place 0)
  match number with
  | some number => throw (.place number)
  | none =>
    if String.ofList first ≠ "id" then throw (.unknownName (String.ofList first))
    follow name.length id (name.drop first.length)

/-- A text in quotes in which every character beyond ASCII is escaped. -/
def asciiQuoted (text : List Char) : List Char :=
  (quoted (String.ofList text)).toList.flatMap fun c =>
    if c.toNat < 0x80 then [c]
    else if c.toNat < 0x100 then '\\' :: 'x' :: hexDigits 2 c.toNat
    else if c.toNat < 0x10000 then '\\' :: 'u' :: hexDigits 4 c.toNat
    else '\\' :: 'U' :: hexDigits 8 c.toNat

/-- A text in another form. -/
def convert (value : List Char) : Option Char → Except TemplateFault (List Char)
  | none | some 's' => .ok value
  | some 'r' => .ok (quoted (String.ofList value)).toList
  | some 'a' => .ok (asciiQuoted value)
  | some letter => .error (.unknownConversion letter)

/-- The text of a template for a name. The first argument bounds how deep fields may stand in layouts,
the second one the number of characters. -/
def fill (id : List Char) : Nat → Nat → List Char → Except TemplateFault (List Char)
  | 0, _, _ => .error .tooDeep
  | _, _, [] => .ok []
  | _, 0, _ => .ok []
  | depth + 1, fuel + 1, c :: rest =>
    if c = '\x7b' then
      match rest with
      | [] => .error .loneOpening
      | '\x7b' :: rest => do return '\x7b' :: (← fill id (depth + 1) fuel rest)
      | _ => do
        let (field, rest) ← scanField rest
        let value ← convert (← valueOf id field.name) field.conversion
        let layout ←
          -- fields in a layout are filled in before it is read
          if field.layout.contains '\x7b' then fill id depth fuel field.layout else pure field.layout
        let shown ← if layout.isEmpty then pure value
          else (Layout.ofText layout).map (·.apply value)
        return shown ++ (← fill id (depth + 1) fuel rest)
    else if c = '\x7d' then
      match rest with
      | '\x7d' :: rest => do return '\x7d' :: (← fill id (depth + 1) fuel rest)
      | _ => .error .loneClosing
    else do return c :: (← fill id (depth + 1) fuel rest)

end Template

/-- The text of a template for a name. -/
def fillTemplate (template id : String) : Except TemplateFault String :=
  (Template.fill id.toList 2 template.length template.toList).map String.ofList

end ProposalCheck

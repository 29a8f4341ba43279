import ProposalCheck.Pattern.Parse

/-!
# HTML in Markdown

A tag, comment, instruction, declaration or character section of HTML stands in the text as it is.
Where one of them opens a block, the block runs up to a line that closes it, or up to a blank line.

## Main definitions

* `tagPattern`: what counts as HTML within a text
* `HtmlBlockRule`: an opening of a block and what closes it
* `htmlBlockRules`: the openings, in the order in which they are tried
-/

namespace ProposalCheck.Markdown

/-- An opening tag with its attributes. -/
def openTagText : String :=
  "<[A-Za-z][A-Za-z0-9\\-]*(?:\\s+[a-zA-Z_:][a-zA-Z0-9:._-]*"
    ++ "(?:\\s*=\\s*(?:[^\"'=<>\x60\\x00-\\x20]+|'[^']*'|\"[^\"]*\"))?)*\\s*\\/?>"

/-- A closing tag. -/
def closeTagText : String := "<\\/[A-Za-z][A-Za-z0-9\\-]*\\s*>"

/-- HTML at the start of a text. -/
def tagPattern : Pattern := Pattern.ofText false <|
  "^(?:" ++ openTagText ++ "|" ++ closeTagText
    ++ "|<!---?>|<!--(?:[^-]|-[^-]|--[^>])*-->|<[?][\\s\\S]*?[?]>|<![A-Za-z][^>]*>"
    ++ "|<!\\[CDATA\\[[\\s\\S]*?\\]\\]>)"

/-- The names of elements that are blocks by themselves. -/
def blockNames : String :=
  "address|article|aside|base|basefont|blockquote|body|caption|center|col|colgroup|dd|details"
    ++ "|dialog|dir|div|dl|dt|fieldset|figcaption|figure|footer|form|frame|frameset|h1|h2|h3|h4|h5"
    ++ "|h6|head|header|hr|html|iframe|legend|li|link|main|menu|menuitem|nav|noframes|ol|optgroup"
    ++ "|option|p|param|search|section|summary|table|tbody|td|tfoot|th|thead|title|tr|track|ul"

/-- An opening of a block and what closes it. Some openings also end a paragraph. -/
structure HtmlBlockRule where
  opening : Pattern
  closing : Pattern
  endsParagraph : Bool

/-- The openings, in the order in which they are tried. -/
def htmlBlockRules : List HtmlBlockRule :=
  [⟨Pattern.ofText true "^<(script|pre|style|textarea)(?=(\\s|>|$))",
      Pattern.ofText true "<\\/(script|pre|style|textarea)>", true⟩,
    ⟨Pattern.ofText false "^<!--", Pattern.ofText false "-->", true⟩,
    ⟨Pattern.ofText false "^<\\?", Pattern.ofText false "\\?>", true⟩,
    ⟨Pattern.ofText false "^<![A-Z]", Pattern.ofText false ">", true⟩,
    ⟨Pattern.ofText false "^<!\\[CDATA\\[", Pattern.ofText false "\\]\\]>", true⟩,
    ⟨Pattern.ofText true ("^</?(" ++ blockNames ++ ")(?=(\\s|/?>|$))"), Pattern.ofText false "^$", true⟩,
    ⟨Pattern.ofText false ("^(?:" ++ openTagText ++ "|" ++ closeTagText ++ ")\\s*$"),
      Pattern.ofText false "^$", false⟩]

/-- The rule whose opening a line matches. -/
def htmlBlockRule? (line : String) : Option HtmlBlockRule :=
  htmlBlockRules.find? (·.opening.isFoundIn line)

/-- An address that stands between `<` and `>`. -/
def addressPattern : Pattern := Pattern.ofText false "^([a-zA-Z][a-zA-Z0-9+.-]\x7b1,31\x7d):([^<>\\x00-\\x20]*)$"

/-- A mail address that stands between `<` and `>`. -/
def mailPattern : Pattern := Pattern.ofText false <|
  let label := "[a-zA-Z0-9](?:[a-zA-Z0-9-]\x7b0,61\x7d[a-zA-Z0-9])?"
  "^([a-zA-Z0-9.!#$%&'*+\\/=?^_\x60\x7b|\x7d~-]+@" ++ label ++ "(?:\\." ++ label ++ ")*)$"

end ProposalCheck.Markdown

import ProposalCheck.Text.Word

/-!
# The words of a command line

A word of the command line is the name of an option, the value of one, or the path of a document. The
name of an option may be shortened as long as it is clear what it stands for, and its value may follow
after an equals sign. After two hyphens every word is the path of a document. The paths stand together:
those that come after options that come after paths are misplaced.

Words are taken one after the other, so a call for the version counts if it stands in front of a
mistake.

## Main definitions

* `OptionKey`: the options
* `CommandWord`: what a word is
* `Arguments`: what the options and paths ask for
* `Request.ofWords`: what a command line asks for
-/

namespace ProposalCheck

/-- The form of the output. -/
inductive OutputFormat where
  | text
  | json
  deriving DecidableEq, Repr

/-- The options. -/
inductive OptionKey where
  | help
  | format
  | config
  | allow
  | warn
  | deny
  | listRules
  | version
  deriving DecidableEq, Repr

namespace OptionKey

/-- The names of the options. -/
def names : List (String × OptionKey) :=
  [("-h", .help), ("--help", .help), ("--format", .format), ("--config", .config), ("--allow", .allow),
    ("--warn", .warn), ("--deny", .deny), ("--list-lints", .listRules), ("--version", .version)]

end OptionKey

/-- What a word of a command line is. -/
inductive CommandWord where
  | plain (text : String)
  /-- Two hyphens, after which all words are plain. -/
  | mark
  /-- An option, perhaps with a value of its own. -/
  | option (key : OptionKey) (value : Option String)
  /-- A short option with further letters. -/
  | letters (key : OptionKey) (more : List Char)
  /-- A word like an option that names none. -/
  | unknown
  /-- The beginning of the names of several options. -/
  | unclear
  deriving DecidableEq, Repr

namespace CommandWord

/-- Is a text a number below zero? -/
def isNegativeNumber (text : List Char) : Bool :=
  match text with
  | '-' :: rest =>
    let whole := rest.takeWhile isDecimalDigit
    match rest.dropWhile isDecimalDigit with
    | [] => !whole.isEmpty
    | '.' :: fraction => !fraction.isEmpty && fraction.all isDecimalDigit
    | _ => false
  | _ => false

/-- A word before the first equals sign, and what follows that if there is one. -/
def splitValue (word : String) : String × Option String :=
  let chars := word.toList
  let name := String.ofList (chars.takeWhile (· ≠ '='))
  match chars.dropWhile (· ≠ '=') with
  | [] => (name, none)
  | _ :: value => (name, some (String.ofList value))

/-- A word like an option that is not the name of one. -/
def ofOther (word : String) : CommandWord :=
  let chars := word.toList
  if isNegativeNumber chars || chars.contains ' ' then .plain word else .unknown

/-- The options whose names start with a text. -/
def startingWith (start : String) : List OptionKey :=
  (OptionKey.names.filter fun (name, _) => start.toList.isPrefixOf name.toList).map (·.2)

/-- A word that starts with a hyphen. -/
def ofHyphen (word : String) : CommandWord :=
  let (name, value) := splitValue word
  match OptionKey.names.lookup word, OptionKey.names.lookup name, word.toList with
  | some key, _, _ => .option key none
  | none, some key, '-' :: '-' :: _ => .option key value
  | none, some key, chars => .letters key (chars.drop 2)
  | none, none, '-' :: '-' :: _ => match startingWith name with
    | [] => ofOther word
    | [key] => .option key value
    | _ => .unclear
  | none, none, '-' :: letter :: more =>
    match OptionKey.names.lookup (String.ofList ['-', letter]) with
    | some key => .letters key more
    | none => ofOther word
  | none, none, _ => .plain word

/-- What the words of a command line are. -/
def ofWords : List String → List CommandWord
  | [] => []
  | word :: rest =>
    if word = "--" then .mark :: rest.map .plain
    else if word.startsWith "-" then ofHyphen word :: ofWords rest
    else .plain word :: ofWords rest

end CommandWord

/-- What the options and paths of a command line ask for. -/
structure Arguments where
  sources : List String := []
  format : OutputFormat := .text
  /-- The path of a file with options. -/
  config : Option String := none
  allow : List String := []
  warn : List String := []
  deny : List String := []
  /-- Are the rules to be listed instead of being run? -/
  listsRules : Bool := false
  deriving DecidableEq, Repr

namespace Arguments

/-- The arguments with the value of an option, if it has this form. -/
def withValue? (arguments : Arguments) (value : String) : OptionKey → Option Arguments
  | .format =>
    if value = "text" then some { arguments with format := .text }
    else if value = "json" then some { arguments with format := .json }
    else none
  | .config => some { arguments with config := some value }
  | .allow => some { arguments with allow := arguments.allow ++ [value] }
  | .warn => some { arguments with warn := arguments.warn ++ [value] }
  | .deny => some { arguments with deny := arguments.deny ++ [value] }
  | .help | .listRules | .version => none

end Arguments

/-- What a command line asks for. -/
inductive Request where
  | run (arguments : Arguments)
  | version
  | help
  /-- The command line makes no sense. -/
  | misuse
  deriving DecidableEq, Repr

/-- How far the paths of documents have been read. -/
inductive PathGroup where
  | ahead
  | within
  | passed
  deriving DecidableEq, Repr

namespace Request

/-- What a command line asks for after some words. With `isFlawed` a word so far was out of place. -/
def ofCommandWords (arguments : Arguments) (group : PathGroup) (isFlawed : Bool) :
    List CommandWord → Request
  | [] => if isFlawed then .misuse else .run arguments
  | .plain path :: rest =>
    if group = .passed then ofCommandWords arguments group true rest
    else
      let arguments := { arguments with sources := arguments.sources ++ [path] }
      ofCommandWords arguments .within isFlawed rest
  | .mark :: rest =>
    if group = .passed then ofCommandWords arguments group true rest
    else ofCommandWords arguments .within isFlawed rest
  | .unknown :: rest => ofCommandWords arguments (after group) true rest
  | .unclear :: _ => .misuse
  | .letters _ more :: _ => if takesLetters more then .help else .misuse
  | .option key (some value) :: rest => match arguments.withValue? value key with
    | some arguments => ofCommandWords arguments (after group) isFlawed rest
    | none => .misuse
  | .option key none :: rest =>
    match key, rest with
    | .help, _ => .help
    | .version, _ => .version
    | .listRules, rest =>
      ofCommandWords { arguments with listsRules := true } (after group) isFlawed rest
    | key, .plain value :: rest => match arguments.withValue? value key with
      | some arguments => ofCommandWords arguments (after group) isFlawed rest
      | none => .misuse
    | _, _ => .misuse
where
  /-- The only short option is the one for help, which may be repeated. It has no value. -/
  takesLetters (more : List Char) : Bool :=
    match more.dropWhile (· = 'h') with
    | c :: _ => c ≠ '=' && c ≠ '-'
    | [] => true
  /-- An option ends the paths. -/
  after : PathGroup → PathGroup
    | .within => .passed
    | group => group

/-- What a command line asks for. -/
def ofWords (words : List String) : Request :=
  let words := CommandWord.ofWords words
  if words.contains .unclear then .misuse else ofCommandWords {} .ahead false words

end Request

end ProposalCheck

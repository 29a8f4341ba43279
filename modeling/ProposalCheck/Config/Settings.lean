import ProposalCheck.Config.EnvironmentFile
import ProposalCheck.Fetch.Source
import ProposalCheck.Validation.Shape

/-!
# Settings of the program

Settings come from the caller, from variables of the environment, from a file with variables, and from
defaults, in this order. The names of variables start with `PROPLINT_`, and their case does not count.

## Main definitions

* `Settings`: the settings of the program
* `Settings.ofLayers`: the settings that the layers make up, or all problems with them
-/

namespace ProposalCheck

/-- The settings of the program. -/
structure Settings where
  logLevel : String := "INFO"
  /-- The template for the line of help below every finding. -/
  helpTemplate : String := "https://proplint.readthedocs.io/rules/\x7bid\x7d/"
  /-- How many seconds a document may take. -/
  fetchTimeout : Option Float := none
  foldThreshold : Int := 6
  deriving Repr

namespace Settings

/-- The time limit for documents. -/
def timeLimit (settings : Settings) : Option TimeLimit := settings.fetchTimeout.map .fractional

/-- A text with the small letters of ASCII. -/
def lowerAscii (text : String) : String := String.ofList (text.toList.map Char.toLower)

/-- The variable for a setting. -/
def variableName (setting : String) : String := "proplint_" ++ setting

/-- The value of the variable for a setting, among variables of which the first one counts. -/
def ofVariables? (assigned : List (String × Option String)) (setting : String) : Option Json :=
  (assigned.find? fun (name, _) => lowerAscii name = variableName setting).bind fun (_, value) =>
    value.map .str

/-- The value of a setting in the layers, if it is in any. -/
def value? (values : List (String × Json)) (environment : List (String × String)) (file : String)
    (setting : String) : Option Json :=
  (Json.lookup setting values).orElse fun _ =>
    (ofVariables? (environment.reverse.map fun (name, value) => (name, some value)) setting).orElse
      fun _ => ofVariables? (EnvironmentFile.resolved environment file) setting

/-- The settings that the layers make up: values from the caller, the environment, and the text of a
file with variables. -/
def ofLayers (values : List (String × Json)) (environment : List (String × String)) (file : String) :
    Checked Settings :=
  let names := ["log_level", "help_url", "fetch_timeout", "fold_threshold"]
  let members := names.filterMap fun name =>
    (value? values environment file name).map fun value => (name, value)
  let defaults : Settings := {}
  Checked.map4 Settings.mk
    (Shape.optional members "log_level" defaults.logLevel Shape.text)
    (Shape.optional members "help_url" defaults.helpTemplate Shape.text)
    (Shape.optional members "fetch_timeout" defaults.fetchTimeout (Shape.nullable Shape.float))
    (Shape.optional members "fold_threshold" defaults.foldThreshold Shape.integer)

/-- The settings as data. -/
def toJson (settings : Settings) : Json :=
  .obj [("log_level", .str settings.logLevel), ("help_url", .str settings.helpTemplate),
    ("fetch_timeout", settings.fetchTimeout.elim .null .float),
    ("fold_threshold", .int settings.foldThreshold)]

end Settings

end ProposalCheck

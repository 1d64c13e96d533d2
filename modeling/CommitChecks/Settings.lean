import CommitChecks.Failure
import CommitChecks.Log.Config
import CommitChecks.Options
import CommitChecks.Toml.Reader

/-!
# Settings

The options of status reporting and the configuration of the log, as one TOML document with a table
for each. A table or a key that is given replaces its default, and nothing else may be given.
-/

namespace CommitChecks

/-- Settings. -/
structure Settings where
  options : Options
  logging : Log.Config
  deriving DecidableEq

namespace Settings

/-- The settings when nothing is given. -/
def default : Settings :=
  ⟨Options.default, Log.Config.default⟩

/-- How settings are written. -/
def shape : RecordShape Settings Settings where
  name := "Settings"
  strict := true
  fields := [
    .of "pac" true Options.decode fun value settings => { settings with options := value },
    .of "logging" true Log.Config.decode fun value settings => { settings with logging := value }]
  start := default
  finish := .ok

/-- Reads settings. -/
def decode : Decoder Settings :=
  shape.decode

/-- What is said about a text that is not TOML. -/
def syntaxComplaint : String := "TOML parse error"

/-- Reads the text of settings, which stands in the file at `path` if it stands in a file. -/
def read (path : Option String) (text : String) : Except Failure Settings :=
  match Toml.read? text with
  | none => .error (.config syntaxComplaint path)
  | some table =>
    match decode .toml table with
    | .ok settings => .ok settings
    | .error error => .error (.config error.message path)

/-- Reads the settings in a file, whose bytes are `content` if there is such a file. -/
def load (path : String) (content : Option ByteArray) : Except Failure Settings :=
  match content with
  | none => .error .fileNotFound
  | some bytes =>
    match String.fromUTF8? bytes with
    | none => .error .invalidUtf8
    | some text => read (some path) text

/-- The settings as a document. -/
def toValue (settings : Settings) : Value :=
  .record [("pac", settings.options.toValue), ("logging", settings.logging.toValue)]

end Settings
end CommitChecks

import CommitChecks.Document.Decoder

/-!
# Log configuration

Which records are written to the log and in which form. Format and level have fixed names; a format
may also be asked for by a name in any case.
-/

namespace CommitChecks.Log

/-- The form of log output. -/
inductive Format where
  | pretty
  | compact
  | json
  deriving DecidableEq, Repr

namespace Format

/-- The name of a format. -/
def name : Format → String
  | pretty => "pretty"
  | compact => "compact"
  | json => "json"

/-- All formats in their declared order. -/
def all : List Format :=
  [pretty, compact, json]

/-- Reads a format. -/
def decode : Decoder Format :=
  Decoder.variant (all.map fun format => (format.name, format))

/-- The format of that name in any case. No letter outside ASCII has one of the letters of a format
name as its lower case, so ASCII letters alone are lowered. -/
def ofName? (name : String) : Except String Format :=
  match all.find? (·.name = name.map Char.toLower) with
  | some format => .ok format
  | none => .error s!"Unknown tracing format: {name}"

end Format

/-- How grave a log record is. -/
inductive Level where
  | trace
  | debug
  | info
  | warn
  | error
  deriving DecidableEq, Repr

namespace Level

/-- The name of a level. -/
def name : Level → String
  | trace => "trace"
  | debug => "debug"
  | info => "info"
  | warn => "warn"
  | error => "error"

/-- The name of a level as a log record shows it. -/
def label : Level → String
  | trace => "TRACE"
  | debug => "DEBUG"
  | info => "INFO"
  | warn => "WARN"
  | error => "ERROR"

/-- All levels in their declared order, the least grave first. -/
def all : List Level :=
  [trace, debug, info, warn, error]

/-- Reads a level. -/
def decode : Decoder Level :=
  Decoder.variant (all.map fun level => (level.name, level))

/-- How grave the level is, as a number. -/
def rank : Level → Nat
  | trace => 0
  | debug => 1
  | info => 2
  | warn => 3
  | error => 4

end Level

/-- What is logged. -/
structure Config where
  format : Format
  level : Level
  filter : Option String
  deriving DecidableEq

namespace Config

/-- The configuration when nothing is given. -/
def default : Config :=
  ⟨.compact, .info, none⟩

/-- How a log configuration is written. -/
def shape : RecordShape Config Config where
  name := "TracingConfig"
  strict := true
  fields := [
    .of "format" true Format.decode fun value config => { config with format := value },
    .of "level" true Level.decode fun value config => { config with level := value },
    .of "filter" true (Decoder.optional Decoder.text) fun value config =>
      { config with filter := value }]
  start := default
  finish := .ok

/-- Reads a log configuration. -/
def decode : Decoder Config :=
  shape.decode

/-- The configuration as a document. -/
def toValue (config : Config) : Value :=
  .record [
    ("format", .str config.format.name),
    ("level", .str config.level.name),
    ("filter", .ofText? config.filter)]

end Config
end CommitChecks.Log

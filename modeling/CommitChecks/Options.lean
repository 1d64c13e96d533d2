import CommitChecks.Document.Decoder

/-!
# Options

How statuses are worded and whether failed logs are searched for annotations. Options are decoded
strictly: a field that is given replaces the default, a field that is not known is refused.
-/

namespace CommitChecks

/-- Options of status reporting. -/
structure Options where
  applicationName : String
  applicationId : Option UInt64
  errorDetection : Bool
  errorPattern : String
  maxLogLines : UInt64
  deriving DecidableEq

namespace Options

/-- The name of the application when none is given. -/
def defaultApplicationName : String := "Pipelines as Code CI"

/-- The pattern of error lines when none is given: file, line, an optional column, and a text. -/
def defaultErrorPattern : String :=
  "^(?P<filename>[^:]*):(?P<line>[0-9]+):(?P<column>[0-9]+)?([ ]*)?(?P<error>.*)"

/-- The number of log lines asked for when none is given. -/
def defaultMaxLogLines : UInt64 := 50

/-- The options when nothing is given. -/
def default : Options where
  applicationName := defaultApplicationName
  applicationId := none
  errorDetection := false
  errorPattern := defaultErrorPattern
  maxLogLines := defaultMaxLogLines

/-- The options with another application name. -/
def withApplicationName (options : Options) (name : String) : Options :=
  { options with applicationName := name }

/-- The options with error detection switched on for a pattern. -/
def withErrorDetection (options : Options) (pattern : String) : Options :=
  { options with errorDetection := true, errorPattern := pattern }

/-- How options are written. -/
def shape : RecordShape Options Options where
  name := "PacOptions"
  strict := true
  fields := [
    .of "application_name" true Decoder.text fun value options =>
      { options with applicationName := value },
    .of "application_id" true (Decoder.optional Decoder.uint64) fun value options =>
      { options with applicationId := value },
    .of "error_detection" true Decoder.boolean fun value options =>
      { options with errorDetection := value },
    .of "error_detection_simple_regexp" true Decoder.text fun value options =>
      { options with errorPattern := value },
    .of "error_detection_max_number_of_lines" true (Decoder.word "usize") fun value options =>
      { options with maxLogLines := value }]
  start := default
  finish := .ok

/-- Reads options. -/
def decode : Decoder Options :=
  shape.decode

/-- The options as a document. -/
def toValue (options : Options) : Value :=
  .record [
    ("application_name", .str options.applicationName),
    ("application_id", .ofId? options.applicationId),
    ("error_detection", .bool options.errorDetection),
    ("error_detection_simple_regexp", .str options.errorPattern),
    ("error_detection_max_number_of_lines", .int options.maxLogLines.toNat)]

end Options
end CommitChecks

import CommitChecks.Diagnostic
import CommitChecks.Failure
import CommitChecks.Log.Record
import CommitChecks.Options
import CommitChecks.Pattern
import CommitChecks.Text.Decimal
import CommitChecks.Text.Lines

/-!
# Annotations from logs

Every line of a failed task's log is matched against a pattern whose groups give the file, the line
number and the message of an annotation. Nothing that the pattern or a line does makes extraction
fail: a pattern that cannot be used, a match without one of the groups, and a line number that is
not a positive one are noted in the log and passed over.
-/

namespace CommitChecks

/-- The groups that a pattern of error lines has to have. -/
def requiredGroups : List String :=
  ["filename", "line", "error"]

/-- The required groups that a pattern lacks. -/
def Pattern.missingGroups (pattern : Pattern) : List String :=
  requiredGroups.filter fun group => group ∉ pattern.groupNames

/-- The required groups that the pattern of some options lacks; a failure if it does not compile. -/
def Options.missingGroups (options : Options) : Except Failure (List String) :=
  match Pattern.compile? options.errorPattern with
  | some pattern => .ok pattern.missingGroups
  | none => .error (.config "invalid error detection pattern" none)

namespace Extractor

/-- What a line of a log gives. -/
inductive LineResult where
  | unmatched
  | incomplete
  | badNumber (text : String)
  | diagnostic (found : Diagnostic)
  deriving DecidableEq

/-- A path without a leading `./`. -/
def repositoryPath : List Char → List Char
  | '.' :: '/' :: path => path
  | path => path

/-- The annotation, or the reason for none, of what the groups matched. -/
def ofGroups (file number message : List Char) : LineResult :=
  match Decimal.readUInt32 number with
  | some line =>
    if line = 0 then .badNumber (String.ofList number)
    else .diagnostic ⟨String.ofList (repositoryPath file), line, line, .failure,
      String.ofList message⟩
  | none => .badNumber (String.ofList number)

/-- What a line gives under a pattern. -/
def ofLine (pattern : Pattern) (line : List Char) : LineResult :=
  match pattern.captures? line with
  | none => .unmatched
  | some captures =>
    match captures.get? line "filename", captures.get? line "line", captures.get? line "error" with
    | some file, some number, some message => ofGroups file number message
    | _, _, _ => .incomplete

/-- The annotation that a line gives. -/
def LineResult.diagnostic? : LineResult → Option Diagnostic
  | diagnostic found => some found
  | _ => none

/-- The note in the log about a line of a task. -/
def LineResult.record? (task : String) (line : List Char) : LineResult → Option Log.Record
  | unmatched => none
  | diagnostic _ => none
  | incomplete => some (.event .debug "Failure pattern matched without all groups"
      [("task", task), ("line", String.ofList line)])
  | badNumber text => some (.event .warn "Cannot convert line number to a positive integer"
      [("task", task), ("value", text)])

/-- The annotations of some texts, and the notes about them in the order of the lines. -/
structure Extraction where
  annotations : List Diagnostic
  records : List Log.Record

/-- The lines of task logs, each with the name of its task. -/
def linesOf (logs : List TaskLog) : List (String × List Char) :=
  logs.flatMap fun log => (logLines log.text).map (log.taskName, ·)

/-- What task logs give under a pattern that has the required groups. -/
def ofLogs (pattern : Pattern) (logs : List TaskLog) : Extraction :=
  let results := (linesOf logs).map fun (task, line) => (task, line, ofLine pattern line)
  ⟨results.filterMap fun (_, _, result) => result.diagnostic?,
    results.filterMap fun (task, line, result) => result.record? task line⟩

/-- What task logs give under a compiled pattern. -/
def extract (pattern : Pattern) (logs : List TaskLog) : Extraction :=
  if pattern.missingGroups = [] then ofLogs pattern logs
  else ⟨[], [.event .error
    "Failure pattern lacks required capture groups, no annotations extracted"
    [("pattern", pattern.text), ("missing", Quoted.encodeList pattern.missingGroups)]]⟩

/-- What task logs give under the text of a pattern. -/
def extractWith (patternText : String) (logs : List TaskLog) : Extraction :=
  match Pattern.compile? patternText with
  | some pattern => extract pattern logs
  | none => ⟨[], [.event .error "Invalid regexp for filtering failure messages"
      [("pattern", patternText)]]⟩

end Extractor
end CommitChecks

import CommitChecks.Status
import CommitChecks.Timestamp

/-!
# Task tables

The body of a status lists the tasks of a run in an HTML table: status, duration, and the name,
which links to the task's log where there is one. Names and addresses are escaped, so neither can
add to the markup around it.
-/

namespace CommitChecks

/-- A task of a run. -/
structure Task where
  name : String
  outcome : Outcome
  startedAt : Option Timestamp
  completedAt : Option Timestamp
  consoleUrl : Option String
  deriving DecidableEq

namespace TaskTable

/-- A character of an attribute value or of a text. -/
def escapeChar (c : Char) : List Char :=
  if c = '&' then "&amp;".toList
  else if c = '<' then "&lt;".toList
  else if c = '>' then "&gt;".toList
  else if c = '"' then "&quot;".toList
  else [c]

/-- An attribute value or a text with its markup characters escaped. -/
def escape (text : String) : List Char :=
  text.toList.flatMap escapeChar

/-- The status of a task with a symbol in front. -/
def statusText : Outcome → String
  | .success => "\u2705 Succeeded"
  | .failure => "\u274c Failed"
  | .skipped => "\u23ed\ufe0f Skipped"
  | .neutral => "\u2754 Unknown"
  | .pending => "🔄 Running"
  | .cancelled => "\u26d4 Cancelled"

/-- A number of seconds in the two largest units it fills. -/
def durationOfSeconds (seconds : Nat) : String :=
  if seconds < 60 then s!"{seconds}s"
  else if seconds < 3600 then s!"{seconds / 60}m {seconds % 60}s"
  else s!"{seconds / 3600}h {seconds % 3600 / 60}m"

/-- The time between start and completion of a task, where both are known. -/
def duration (task : Task) : String :=
  match task.startedAt, task.completedAt with
  | some startedAt, some completedAt => durationOfSeconds (startedAt.secondsUntil completedAt)
  | _, _ => "---"

/-- The name of a task, as a link where its log has an address. -/
def linkedName (task : Task) : List Char :=
  match task.consoleUrl with
  | some url =>
    "<a href=\"".toList ++ escape url ++ "\">".toList ++ escape task.name ++ "</a>".toList
  | none => escape task.name

/-- The row of a task. -/
def row (task : Task) : List Char :=
  "<tr>\n<td>".toList ++ (statusText task.outcome).toList ++ "</td>\n<td>".toList ++
    (duration task).toList ++ "</td><td>\n\n".toList ++ linkedName task ++
    "\n\n</td></tr>\n".toList

/-- What stands above the rows. -/
def header : String :=
  "\n<table>\n  <tr><th>Status</th><th>Duration</th><th>Name</th></tr>\n"

/-- What stands below the rows. -/
def footer : String := "</table>"

/-- The table of some tasks. -/
def render (tasks : List Task) : String :=
  String.ofList (header.toList ++ tasks.flatMap row ++ footer.toList)

end TaskTable
end CommitChecks

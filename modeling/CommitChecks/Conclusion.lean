import CommitChecks.Options
import CommitChecks.Status

/-!
# Conclusions

The words shown for an outcome. A run in progress has a text of its own whatever its outcome;
outcomes without a fixed text keep the words of the request. A summary starts with the name of the
application, followed by the logical name of the run.
-/

namespace CommitChecks

/-- The title and summary shown for an outcome. -/
structure Conclusion where
  title : String
  summary : String
  deriving DecidableEq

namespace Conclusion

/-- The title of the check of a skipped run. -/
def skippedTitle : String := "Skipped"

/-- The phrase by which the summary of a skipped run's check is known. -/
def skippedPhrase : String := "is skipping this commit"

/-- The fixed words for an outcome in a phase. -/
def of (outcome : Outcome) (phase : Phase) : Option Conclusion :=
  if phase = .inProgress then some ⟨"CI has Started", "is running."⟩
  else match outcome with
    | .success => some ⟨"Success", "has successfully validated your commit."⟩
    | .failure => some ⟨"Failed", "has failed."⟩
    | .skipped => some ⟨skippedTitle, "is skipping this commit."⟩
    | .neutral => some ⟨"Unknown", "doesn't know what happened with this commit."⟩
    | .pending => none
    | .cancelled => none

/-- A summary with the names of the application and the run in front. -/
def composeSummary (applicationName : String) (logicalName : Option String)
    (summary : String) : String :=
  match logicalName with
  | some name => s!"{applicationName}/{name} {summary}"
  | none => s!"{applicationName} {summary}"

/-- The words of a request as they are submitted. -/
def ofRequest (options : Options) (request : StatusRequest) : Conclusion :=
  let words := (of request.outcome request.phase).getD ⟨request.title, request.summary⟩
  ⟨words.title, composeSummary options.applicationName request.shownName? words.summary⟩

/-- The request with its words replaced by those that are submitted. -/
def apply (options : Options) (request : StatusRequest) : StatusRequest :=
  let words := ofRequest options request
  { request with title := words.title, summary := words.summary }

/-- The name of the check, or the context of the status, for a request. -/
def checkName (options : Options) (request : StatusRequest) : String :=
  match request.shownName? with
  | none => options.applicationName
  | some name =>
    if options.applicationName = "" then name
    else s!"{options.applicationName} / {name}"

end Conclusion

/-- The state of a commit status. -/
inductive CommitState where
  | pending
  | success
  | failure
  | error
  deriving DecidableEq, Repr

namespace CommitState

/-- The name of a state. -/
def name : CommitState → String
  | pending => "pending"
  | success => "success"
  | failure => "failure"
  | error => "error"

/-- The name of a state as a log record shows it. -/
def label : CommitState → String
  | pending => "Pending"
  | success => "Success"
  | failure => "Failure"
  | error => "Error"

/-- All states in their declared order. -/
def all : List CommitState :=
  [pending, success, failure, error]

/-- Reads a state. -/
def decode : Decoder CommitState :=
  Decoder.variant (all.map fun state => (state.name, state))

/-- The state submitted for an outcome in a phase. A run in progress is pending; skipped and neutral
runs count as successful, cancelled ones as erroneous. -/
def of (phase : Phase) (outcome : Outcome) : CommitState :=
  if phase = .inProgress then pending
  else match outcome with
    | .success | .skipped | .neutral => success
    | .failure => failure
    | .pending => pending
    | .cancelled => error

end CommitState
end CommitChecks

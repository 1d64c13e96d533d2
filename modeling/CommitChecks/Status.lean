import CommitChecks.Run

/-!
# Status requests

Each change in the life of a run asks for a status: the phase the run is in, its outcome so far, and
the texts to show.
-/

namespace CommitChecks

/-- The phase of a run. -/
inductive Phase where
  | queued
  | inProgress
  | completed
  deriving DecidableEq, Repr

namespace Phase

/-- The name of a phase. -/
def name : Phase → String
  | queued => "queued"
  | inProgress => "in_progress"
  | completed => "completed"

/-- All phases in their declared order. -/
def all : List Phase :=
  [queued, inProgress, completed]

/-- Reads a phase. -/
def decode : Decoder Phase :=
  Decoder.variant (all.map fun phase => (phase.name, phase))

end Phase

/-- The outcome of a run. -/
inductive Outcome where
  | success
  | failure
  | skipped
  | neutral
  | pending
  | cancelled
  deriving DecidableEq, Repr

namespace Outcome

/-- The name of an outcome. -/
def name : Outcome → String
  | success => "success"
  | failure => "failure"
  | skipped => "skipped"
  | neutral => "neutral"
  | pending => "pending"
  | cancelled => "cancelled"

/-- All outcomes in their declared order. -/
def all : List Outcome :=
  [success, failure, skipped, neutral, pending, cancelled]

/-- Reads an outcome. -/
def decode : Decoder Outcome :=
  Decoder.variant (all.map fun outcome => (outcome.name, outcome))

end Outcome

/-- What is to be shown for a run. -/
structure StatusRequest where
  runName : String
  logicalName : Option String := none
  phase : Phase
  outcome : Outcome
  detailsUrl : String := ""
  title : String := ""
  summary : String := ""
  text : String := ""
  run : Option Run := none
  deriving DecidableEq

/-- The logical name of the run, if it has one that is not empty. -/
def StatusRequest.shownName? (request : StatusRequest) : Option String :=
  request.logicalName.filter (· ≠ "")

/-- The check that a report used. -/
structure CheckHandle where
  id : UInt64
  externalId : String
  deriving DecidableEq

end CommitChecks

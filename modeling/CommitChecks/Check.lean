import CommitChecks.Diagnostic
import CommitChecks.Conclusion
import CommitChecks.Timestamp

/-!
# Checks and statuses

What the hosting service holds for a commit and what it is asked to write: checks with an output,
and flat commit statuses.
-/

namespace CommitChecks

/-- A check that is already on a commit. -/
structure ExistingCheck where
  id : UInt64
  externalId : Option String := none
  title : Option String := none
  summary : Option String := none
  deriving DecidableEq

/-- Whether a text holds a phrase. -/
def holdsPhrase (phrase : List Char) : List Char → Bool
  | [] => phrase.isEmpty
  | c :: rest => phrase.isPrefixOf (c :: rest) || holdsPhrase phrase rest

/-- Whether the check was created for a skipped run. -/
def ExistingCheck.isSkipped (check : ExistingCheck) : Bool :=
  check.title = some Conclusion.skippedTitle &&
    check.summary.any fun summary => holdsPhrase Conclusion.skippedPhrase.toList summary.toList

/-- A check to be created. -/
structure NewCheck where
  name : String
  headSha : String
  status : Phase
  detailsUrl : String
  externalId : String
  startedAt : Timestamp
  deriving DecidableEq

/-- What a check shows. -/
structure CheckOutput where
  title : String
  summary : String
  text : String
  annotations : List Diagnostic
  deriving DecidableEq

/-- New contents of a check. -/
structure CheckUpdate where
  name : String
  status : Phase
  output : CheckOutput
  completedAt : Option Timestamp
  conclusion : Option Outcome
  detailsUrl : Option String
  externalId : Option String
  deriving DecidableEq

/-- A flat status of a commit. -/
structure CommitStatus where
  state : CommitState
  targetUrl : String
  description : String
  context : String
  deriving DecidableEq

end CommitChecks

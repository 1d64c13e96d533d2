import CommitChecks.Reconciler

/-!
# Rehearsals

Collaborators that live in memory, for trying out a session: a hosting service with a list of
checks, a store of runs, and a log. Every kind of call can be made to fail. The hosting service
either shows the same checks all the time or keeps account of what is created and updated.
-/

namespace CommitChecks

/-- Collaborators in memory. -/
structure Rehearsal where
  checks : List ExistingCheck := []
  keepsAccount : Bool := false
  nextId : UInt64 := 1000
  runs : List (String × Run) := []
  logs : List TaskLog := []
  failing : List Call.Kind := []

namespace Rehearsal

/-- How a kind of call fails. -/
def failure (run : String) : Call.Kind → Failure
  | .list => .discovery "503 Service Unavailable"
  | .create => .submission "Create check run" "403 Forbidden"
  | .update => .submission "Update check run" "422 Unprocessable Entity"
  | .status => .submission "Create commit status" "404 Not Found"
  | .comment => .submission "Create pull request comment" "410 Gone"
  | .patch => .persist run "the object has been modified"
  | .logs => .configuration "pod logs unavailable"

/-- The name of the run that a call is about. -/
def runName : Call → String
  | .patch run _ => run.name
  | .logs run _ => run.name
  | _ => ""

/-- Whether a call fails. -/
def fails (rehearsal : Rehearsal) (call : Call) : Bool :=
  rehearsal.failing.contains call.kind

/-- The answer to a call that does not fail. -/
def success (rehearsal : Rehearsal) : (call : Call) → call.Answer
  | .list _ _ => rehearsal.checks
  | .create _ _ => rehearsal.nextId
  | .update _ _ _ => ()
  | .status _ _ => ()
  | .comment _ _ _ => ()
  | .patch _ _ => ()
  | .logs _ _ => rehearsal.logs

/-- A check with the contents of an update. -/
def overwritten (check : ExistingCheck) (update : CheckUpdate) : ExistingCheck :=
  { check with
    externalId := update.externalId.or check.externalId
    title := some update.output.title
    summary := some update.output.summary }

/-- Checks with an update of the first one of that identifier. -/
def overwriteFirst (id : UInt64) (update : CheckUpdate) : List ExistingCheck → List ExistingCheck
  | [] => []
  | check :: rest =>
    if check.id = id then overwritten check update :: rest
    else check :: overwriteFirst id update rest

/-- Stored runs with a change of the run of that name. -/
def changeRun (name : String) (change : Run → Run) : List (String × Run) → List (String × Run)
  | [] => []
  | (other, run) :: rest =>
    if other = name then (other, change run) :: rest
    else (other, run) :: changeRun name change rest

/-- The collaborators after a call that did not fail. -/
def afterSuccess (rehearsal : Rehearsal) : Call → Rehearsal
  | .create _ check =>
    { rehearsal with
      nextId := rehearsal.nextId + 1
      checks := if rehearsal.keepsAccount then
          rehearsal.checks ++ [⟨rehearsal.nextId, some check.externalId, none, none⟩]
        else rehearsal.checks }
  | .update _ id update =>
    if rehearsal.keepsAccount then
      { rehearsal with checks := overwriteFirst id update rehearsal.checks }
    else rehearsal
  | .patch run patch =>
    { rehearsal with runs := changeRun run.name patch.applyTo rehearsal.runs }
  | _ => rehearsal

/-- The reply to a call. -/
def reply (call : Call) (rehearsal : Rehearsal) : call.Reply :=
  if rehearsal.fails call then .error (failure (runName call) call.kind)
  else .ok (rehearsal.success call)

/-- The collaborators after a call. A call that fails changes nothing. -/
def after (call : Call) (rehearsal : Rehearsal) : Rehearsal :=
  if rehearsal.fails call then rehearsal else rehearsal.afterSuccess call

/-- The collaborators as those who answer. -/
def answerer : Answerer Call Call.Reply Rehearsal where
  answer := reply
  after := after

/-- The stored run of that name. -/
def run? (rehearsal : Rehearsal) (name : String) : Option Run :=
  rehearsal.runs.lookup name

/-- Stores a run under its name, unless one is stored there already. -/
def store (rehearsal : Rehearsal) (run : Run) : Rehearsal :=
  match rehearsal.run? run.name with
  | some _ => rehearsal
  | none => { rehearsal with runs := rehearsal.runs ++ [(run.name, run)] }

end Rehearsal
end CommitChecks

import CommitChecks.Document.Decoder
import CommitChecks.Text.Bytes

/-!
# Events

A run is triggered by an event of the hosting service: a push, a change of a pull request, or
another event that is known by its name alone. An event that carries an app installation is reported
through checks, any other through commit statuses.
-/

namespace CommitChecks

/-- The kind of an event. -/
inductive EventKind where
  | pullRequest
  | push
  | other (name : String)
  deriving DecidableEq, Repr

namespace EventKind

/-- The kind that the hosting service calls by that name. -/
def ofName (name : String) : EventKind :=
  if name = "pull_request" then pullRequest
  else if name = "push" then push
  else other name

/-- The name of the kind. -/
def name : EventKind → String
  | pullRequest => "pull_request"
  | push => "push"
  | other name => name

theorem name_ofName (text : String) : (ofName text).name = text := by
  rw [ofName]
  split
  · rename_i same; exact same.symm
  · split
    · rename_i same; exact same.symm
    · rfl

/-- The kinds with a name of their own. -/
def named : List (String × EventKind) :=
  [("pull_request", pullRequest), ("push", push)]

/-- Reads a kind: a name, or one of the named kinds written as a record. -/
def decode : Decoder EventKind
  | _, .str name => .ok (ofName name)
  | dialect, value =>
    match Decoder.variant named dialect value with
    | .ok kind => .ok kind
    | .error _ => .error (.noVariantMatches "EventKind")

/-- The kind as a document. -/
def toValue (kind : EventKind) : Value :=
  .str kind.name

end EventKind

/-- The event that triggered a run. -/
structure Event where
  organization : String
  repository : String
  sha : String
  kind : EventKind
  pullRequestNumber : Option UInt64
  installationId : Int64
  deriving DecidableEq

namespace Event

/-- Whether checks can be used for the event. -/
def hasAppInstallation (event : Event) : Bool :=
  0 < event.installationId

/-- Whether the event belongs to a pull request. -/
def isPullRequest (event : Event) : Bool :=
  event.kind = .pullRequest

/-- The event as messages name it, with the first seven bytes of the commit. -/
def text (event : Event) : String :=
  s!"{event.organization}/{event.repository}@{shortenedTo 7 event.sha} ({event.kind.name})"

/-- The fields of an event that have been read. -/
structure Draft where
  organization : Option String := none
  repository : Option String := none
  sha : Option String := none
  kind : Option EventKind := none
  pullRequestNumber : Option UInt64 := none
  installationId : Int64 := 0

/-- How an event is written. The installation is zero when it is not given. -/
def shape : RecordShape Draft Event where
  name := "RunEvent"
  strict := false
  fields := [
    .of "organization" false Decoder.text fun value draft =>
      { draft with organization := some value },
    .of "repository" false Decoder.text fun value draft => { draft with repository := some value },
    .of "sha" false Decoder.text fun value draft => { draft with sha := some value },
    .of "event_kind" false EventKind.decode fun value draft => { draft with kind := some value },
    .of "pull_request_number" false (Decoder.optional Decoder.uint64) fun value draft =>
      { draft with pullRequestNumber := value },
    .of "installation_id" true Decoder.int64 fun value draft =>
      { draft with installationId := value }]
  start := {}
  finish draft := do
    let organization ← RecordShape.required "organization" draft.organization
    let repository ← RecordShape.required "repository" draft.repository
    let sha ← RecordShape.required "sha" draft.sha
    let kind ← RecordShape.required "event_kind" draft.kind
    return ⟨organization, repository, sha, kind, draft.pullRequestNumber, draft.installationId⟩

/-- Reads an event. -/
def decode : Decoder Event :=
  shape.decode

/-- The event as a document. -/
def toValue (event : Event) : Value :=
  .record [
    ("organization", .str event.organization),
    ("repository", .str event.repository),
    ("sha", .str event.sha),
    ("event_kind", event.kind.toValue),
    ("pull_request_number", .ofId? event.pullRequestNumber),
    ("installation_id", .int event.installationId.toInt)]

end Event
end CommitChecks

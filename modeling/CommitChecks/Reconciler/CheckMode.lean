import CommitChecks.Diagnostic.Extractor
import CommitChecks.Collaborator
import CommitChecks.SkipSlot

/-!
# Reporting through checks

A run has one check for all of its reports. Its identifier is read from the run's label; without a
label the checks of the commit are searched for one that belongs to the run, or for the check of a
skipped run that is still free, and only if there is none a new one is created. The identifier is
stored on the run before the check is updated, and the first call that fails ends the report; logs
that cannot be read merely leave the check without annotations.
-/

namespace CommitChecks

/-- How a report ended, and the skip slot after it. -/
structure Report (Result : Type) where
  result : Except Failure Result
  slot : SkipSlot

namespace CheckMode

/-- The identifier that the run's label holds. -/
def storedId (request : StatusRequest) : Except Failure (Option UInt64) :=
  match request.run.bind Run.checkIdText with
  | none => .ok none
  | some text =>
    match Decimal.readUInt64 text.toList with
    | some id => .ok (some id)
    | none => .error (.unreadableCheckId text)

/-- Why a check of the commit was chosen. -/
inductive Reason where
  | skipped
  | externalId
  deriving DecidableEq

/-- The first check that can be used for a run, why, and the skip slot after the search. -/
def choose (runName : String) (slot : SkipSlot) :
    List ExistingCheck → Option (UInt64 × Reason) × SkipSlot
  | [] => (none, slot)
  | check :: rest =>
    if check.isSkipped ∧ (slot.claim check.id).1 then
      (some (check.id, .skipped), (slot.claim check.id).2)
    else if check.externalId = some runName then (some (check.id, .externalId), slot)
    else choose runName slot rest

/-- The field that names a check in log records. -/
def idField (id : UInt64) : String × String :=
  ("check_run_id", id.toNat.repr)

/-- The log record about the choice of a check. -/
def Reason.record (id : UInt64) : Reason → Log.Record
  | skipped => .event .info "Reusing skipped check run" [idField id]
  | externalId => .event .debug "Found check run by external id" [idField id]

/-- The check that is created for a run. -/
def newCheck (now : Timestamp) (event : Event) (options : Options) (request : StatusRequest) :
    NewCheck where
  name := Conclusion.checkName options request
  headSha := event.sha
  status := .inProgress
  detailsUrl := request.detailsUrl
  externalId := request.runName
  startedAt := now

/-- The conclusion that a request reports, if any: that of a cancelled or stopped run is cancelled,
whatever its phase and outcome. -/
def conclusion (request : StatusRequest) : Option Outcome :=
  if request.run.any Run.isCancelledOrStopped then some .cancelled
  else if request.phase = .completed ∧ request.outcome ≠ .pending then some request.outcome
  else none

/-- A text that is not empty. -/
def nonEmpty? (text : String) : Option String :=
  if text = "" then none else some text

/-- The new contents of a run's check. -/
def update (now : Timestamp) (options : Options) (request : StatusRequest)
    (annotations : List Diagnostic) : CheckUpdate where
  name := Conclusion.checkName options request
  status := request.phase
  output := ⟨request.title, request.summary, request.text, annotations⟩
  completedAt := (conclusion request).map fun _ => now
  conclusion := conclusion request
  detailsUrl := nonEmpty? request.detailsUrl
  externalId := nonEmpty? request.runName

/-- The run whose logs are searched for annotations, if they are. -/
def runWithLogs? (options : Options) (request : StatusRequest) : Option Run :=
  if options.errorDetection ∧ request.outcome = .failure then request.run else none

/-- Collects the annotations of a report, then goes on with them. -/
def withAnnotations {Result : Type} (options : Options) (request : StatusRequest)
    (next : List Diagnostic → Conversation Result) : Conversation Result :=
  match runWithLogs? options request with
  | none => next []
  | some run => .ask (.logs run options.maxLogLines) fun
    | .ok logs =>
      let extraction := Extractor.extractWith options.errorPattern logs
      .noteAll extraction.records (next extraction.annotations)
    | .error failure =>
      .note (.event .warn "Failed to collect failed task logs"
        [("error", failure.message), ("run", run.name)]) (next [])

/-- Updates the check of a run. -/
def submit (now : Timestamp) (event : Event) (options : Options) (request : StatusRequest)
    (slot : SkipSlot) (id : UInt64) : Conversation (Report CheckHandle) :=
  withAnnotations options request fun annotations =>
    .ask (.update event id (update now options request annotations)) fun
      | .ok () => .done ⟨.ok ⟨id, request.runName⟩, slot⟩
      | .error failure => .done ⟨.error failure, slot⟩

/-- Stores the identifier of the check on the run, if there is one, then updates the check. -/
def store (now : Timestamp) (event : Event) (options : Options) (request : StatusRequest)
    (slot : SkipSlot) (id : UInt64) : Conversation (Report CheckHandle) :=
  match request.run with
  | none => submit now event options request slot id
  | some run => .ask (.patch run (.forCheck id request.detailsUrl)) fun
    | .ok () => submit now event options request slot id
    | .error failure => .done ⟨.error failure, slot⟩

/-- Creates a check for a run. -/
def create (now : Timestamp) (event : Event) (options : Options) (request : StatusRequest)
    (slot : SkipSlot) : Conversation (Report CheckHandle) :=
  let check := newCheck now event options request
  .ask (.create event check) fun
    | .ok id =>
      .note (.event .info "Created check run" [idField id, ("name", check.name)])
        (store now event options request slot id)
    | .error failure => .done ⟨.error failure, slot⟩

/-- Looks for a check of the commit that the run can use, and creates one if there is none. -/
def discover (now : Timestamp) (event : Event) (options : Options) (request : StatusRequest)
    (slot : SkipSlot) : Conversation (Report CheckHandle) :=
  .ask (.list event options.applicationId) fun
    | .ok checks =>
      match choose request.runName slot checks with
      | (some (id, reason), slot) =>
        .note (reason.record id) (store now event options request slot id)
      | (none, slot) => create now event options request slot
    | .error failure => .done ⟨.error failure, slot⟩

/-- Reports a request whose words are final. -/
def report (now : Timestamp) (event : Event) (options : Options) (request : StatusRequest)
    (slot : SkipSlot) : Conversation (Report CheckHandle) :=
  match storedId request with
  | .error failure => .done ⟨.error failure, slot⟩
  | .ok (some id) =>
    .note (.event .debug "Reusing check id persisted on run" [idField id])
      (submit now event options request slot id)
  | .ok none => discover now event options request slot

end CheckMode
end CommitChecks

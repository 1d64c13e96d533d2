import CommitChecks.Reconciler.CheckMode
import CommitChecks.Reconciler.StatusMode

/-!
# The reconciler

One reconciler serves a session of the hosting service. Each report turns one change in the life of
a run into calls: through a check if the event carries an app installation, through a commit status
otherwise. All that a reconciler remembers between reports is the skip slot.
-/

namespace CommitChecks

/-- How a run is reported. -/
inductive ReportMode where
  | checkRun
  | commitStatus
  deriving DecidableEq, Repr

namespace ReportMode

/-- The mode for an event. -/
def ofEvent (event : Event) : ReportMode :=
  if event.hasAppInstallation then checkRun else commitStatus

/-- The name of a mode. -/
def name : ReportMode → String
  | checkRun => "check_run"
  | commitStatus => "commit_status"

end ReportMode

/-- A reconciler: whether a hosting service was configured, and the skip slot of the session. -/
structure Reconciler where
  hasHosting : Bool
  slot : SkipSlot := .empty
  deriving DecidableEq

namespace Reconciler

/-- Claims the skip slot for a check: whether the claim won, and the reconciler afterwards. -/
def claim (reconciler : Reconciler) (candidate : UInt64) : Bool × Reconciler :=
  let (won, slot) := reconciler.slot.claim candidate
  (won, { reconciler with slot := slot })

/-- The span under which a report is logged. -/
def reportSpan (event : Event) (request : StatusRequest) : Log.Record :=
  .span .info "report_status"
    [("run", request.runName), ("sha", event.sha), ("mode", (ReportMode.ofEvent event).name)]

/-- Reports a request whose words are final, in the mode for the event. -/
def submit (slot : SkipSlot) (now : Timestamp) (event : Event) (options : Options)
    (request : StatusRequest) : Conversation (Report (Option CheckHandle)) :=
  match ReportMode.ofEvent event with
  | .checkRun =>
    (CheckMode.report now event options request slot).map fun report =>
      ⟨report.result.map some, report.slot⟩
  | .commitStatus =>
    (StatusMode.report event options request).map fun result => ⟨result.map fun _ => none, slot⟩

/-- Reports a request for the run that an event triggered. The result is the check that was used, or
none if the report went through a commit status. -/
def report (reconciler : Reconciler) (now : Timestamp) (event : Event) (options : Options)
    (request : StatusRequest) : Conversation (Report (Option CheckHandle)) :=
  if reconciler.hasHosting then
    let request := Conclusion.apply options request
    .note (reportSpan event request) (submit reconciler.slot now event options request)
  else .done ⟨.error .noHosting, reconciler.slot⟩

/-- The reconciler after a report. -/
def after {Result : Type} (reconciler : Reconciler) (report : Report Result) : Reconciler :=
  { reconciler with slot := report.slot }

end Reconciler
end CommitChecks

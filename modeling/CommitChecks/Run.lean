import CommitChecks.Labels
import CommitChecks.Text.Decimal

/-!
# Run objects

A run is stored under a name as an object with labels and annotations. The identifier of its check
and the address of its log are kept there by a patch of the object's metadata.
-/

namespace CommitChecks

/-- How a run was cancelled. -/
inductive CancelState where
  | cancelled
  | cancelledRunFinally
  | stoppedRunFinally
  deriving DecidableEq, Repr

namespace CancelState

/-- The name of a state. -/
def name : CancelState → String
  | cancelled => "Cancelled"
  | cancelledRunFinally => "CancelledRunFinally"
  | stoppedRunFinally => "StoppedRunFinally"

/-- All states in their declared order. -/
def all : List CancelState :=
  [cancelled, cancelledRunFinally, stoppedRunFinally]

/-- Reads a state. -/
def decode : Decoder CancelState :=
  Decoder.variant (all.map fun state => (state.name, state))

end CancelState

/-- A stored run. -/
structure Run where
  name : String
  namespaceName : String
  labels : Labels := ∅
  annotations : Labels := ∅
  cancelState : Option CancelState := none
  deriving DecidableEq

namespace Run

/-- The label that holds the identifier of the run's check. -/
def checkIdKey : String := "checkrun.dev/check-run-id"

/-- The annotation that holds the address of the run's log. -/
def logUrlKey : String := "checkrun.dev/log-url"

/-- The run with a label put on it. -/
def withLabel (run : Run) (key text : String) : Run :=
  { run with labels := run.labels.insert key text }

/-- The run with a cancellation requested. -/
def withCancelState (run : Run) (state : CancelState) : Run :=
  { run with cancelState := some state }

/-- The text of the label that holds the identifier of the check. -/
def checkIdText (run : Run) : Option String :=
  run.labels.get? checkIdKey

/-- Whether the run was cancelled or stopped in any way. -/
def isCancelledOrStopped (run : Run) : Bool :=
  run.cancelState.isSome

/-- The fields of a run that have been read. -/
structure Draft where
  name : Option String := none
  namespaceName : Option String := none
  labels : Labels := ∅
  annotations : Labels := ∅
  cancelState : Option CancelState := none

/-- How a run is written. -/
def shape : RecordShape Draft Run where
  name := "RunObject"
  strict := false
  fields := [
    .of "name" false Decoder.text fun value draft => { draft with name := some value },
    .of "namespace" false Decoder.text fun value draft =>
      { draft with namespaceName := some value },
    .of "labels" true Labels.decode fun value draft => { draft with labels := value },
    .of "annotations" true Labels.decode fun value draft => { draft with annotations := value },
    .of "cancel_state" true (Decoder.optional CancelState.decode) fun value draft =>
      { draft with cancelState := value }]
  start := {}
  finish draft := do
    let name ← RecordShape.required "name" draft.name
    let namespaceName ← RecordShape.required "namespace" draft.namespaceName
    return ⟨name, namespaceName, draft.labels, draft.annotations, draft.cancelState⟩

/-- Reads a run. -/
def decode : Decoder Run :=
  shape.decode

/-- The run as a document. -/
def toValue (run : Run) : Value :=
  .record [
    ("name", .str run.name),
    ("namespace", .str run.namespaceName),
    ("labels", run.labels.toValue),
    ("annotations", run.annotations.toValue),
    ("cancel_state", .ofText? (run.cancelState.map CancelState.name))]

end Run

/-- Labels and annotations to be put on a run. -/
structure MetadataPatch where
  labels : Labels
  annotations : Labels
  deriving DecidableEq

namespace MetadataPatch

/-- The patch that stores a check's identifier and a log's address. -/
def forCheck (id : UInt64) (logUrl : String) : MetadataPatch where
  labels := Labels.empty.insert Run.checkIdKey id.toNat.repr
  annotations := Labels.empty.insert Run.logUrlKey logUrl

/-- The run with the patch applied: its labels and annotations override those of the run. -/
def applyTo (patch : MetadataPatch) (run : Run) : Run :=
  { run with
    labels := run.labels.overrideBy patch.labels
    annotations := run.annotations.overrideBy patch.annotations }

/-- The patch as a merge patch of the stored object. -/
def toValue (patch : MetadataPatch) : Value :=
  .record [("metadata", .record [
    ("labels", patch.labels.toValue),
    ("annotations", patch.annotations.toValue)])]

end MetadataPatch
end CommitChecks

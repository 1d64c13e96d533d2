import CommitChecks.Check
import CommitChecks.Log.Record

/-!
# Bodies of requests

What is written into requests to the hosting service. A text that is empty is left out where the
service has no use for it, and so is what is absent. The service takes fifty annotations with one
update; further ones are left out.
-/

namespace CommitChecks.GitHub

/-- The greatest number of annotations in a request. -/
def maxAnnotations : Nat := 50

/-- An entry for a text that is left out when it is empty. -/
def textEntry (name text : String) : List (String × Value) :=
  if text = "" then [] else [(name, .str text)]

/-- An entry for a text that may be absent. -/
def optionalEntry (name : String) (text : Option String) : List (String × Value) :=
  match text with
  | some text => [(name, .str text)]
  | none => []

/-- The body that asks for a new check. -/
def createBody (check : NewCheck) : Value :=
  .record ([
    ("name", .str check.name),
    ("head_sha", .str check.headSha),
    ("status", .str check.status.name)] ++
    textEntry "details_url" check.detailsUrl ++ [
    ("external_id", .str check.externalId),
    ("started_at", .str check.startedAt.text)])

/-- An annotation in a body. -/
def diagnosticBody (diagnostic : Diagnostic) : Value :=
  .record [
    ("path", .str diagnostic.path),
    ("start_line", .int diagnostic.startLine.toNat),
    ("end_line", .int diagnostic.endLine.toNat),
    ("annotation_level", .str diagnostic.level.name),
    ("message", .str diagnostic.message)]

/-- The entry for the annotations of a check, as many as fit. -/
def annotationsEntry (annotations : List Diagnostic) : List (String × Value) :=
  if annotations = [] then []
  else [("annotations", .list ((annotations.take maxAnnotations).map diagnosticBody))]

/-- The output of a check in a body. -/
def outputBody (output : CheckOutput) : Value :=
  .record ([("title", .str output.title), ("summary", .str output.summary)] ++
    textEntry "text" output.text ++ annotationsEntry output.annotations)

/-- The body that asks for new contents of a check. -/
def updateBody (update : CheckUpdate) : Value :=
  .record ([
    ("name", .str update.name),
    ("status", .str update.status.name),
    ("output", outputBody update.output)] ++
    optionalEntry "conclusion" (update.conclusion.map Outcome.name) ++
    optionalEntry "completed_at" (update.completedAt.map Timestamp.text) ++
    optionalEntry "details_url" update.detailsUrl ++
    optionalEntry "external_id" update.externalId)

/-- What is logged about annotations that do not fit into a request. -/
def truncation (annotations : List Diagnostic) : List Log.Record :=
  if maxAnnotations < annotations.length then
    [.event .warn "Too many annotations for one check update, truncating"
      [("total", annotations.length.repr), ("kept", maxAnnotations.repr)]]
  else []

/-- The body that asks for a commit status. -/
def statusBody (status : CommitStatus) : Value :=
  .record ([("state", .str status.state.name)] ++ textEntry "target_url" status.targetUrl ++ [
    ("description", .str status.description),
    ("context", .str status.context)])

/-- The body that asks for a comment. -/
def commentBody (text : String) : Value :=
  .record [("body", .str text)]

end CommitChecks.GitHub

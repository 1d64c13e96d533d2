import CommitChecks.Collaborator

/-!
# Reporting through commit statuses

Without an app installation a commit carries one flat state. It has no room for a text, so the text
of a completed run goes into a comment on the pull request.
-/

namespace CommitChecks
namespace StatusMode

/-- The status submitted for a request. -/
def status (options : Options) (request : StatusRequest) : CommitStatus where
  state := .of request.phase request.outcome
  targetUrl := request.detailsUrl
  description := request.title
  context := Conclusion.checkName options request

/-- Whether the text of a request is due as a comment. -/
def needsComment (event : Event) (request : StatusRequest) : Bool :=
  request.phase = .completed && request.text ≠ "" && event.isPullRequest

/-- The body of the comment. -/
def commentBody (request : StatusRequest) : String :=
  s!"{request.summary}<br>{request.text}"

/-- The log record about a submitted status. -/
def submitted (status : CommitStatus) : Log.Record :=
  .event .debug "Created commit status"
    [("state", status.state.label), ("context", status.context)]

/-- Comments on the pull request if a comment is due. -/
def comment (event : Event) (request : StatusRequest) : Conversation (Except Failure Unit) :=
  if needsComment event request then
    match event.pullRequestNumber with
    | none => .done (.error (.missingPullRequestNumber event))
    | some number => .ask (.comment event number (commentBody request)) .done
  else .done (.ok ())

/-- Reports a request whose words are final. -/
def report (event : Event) (options : Options) (request : StatusRequest) :
    Conversation (Except Failure Unit) :=
  .ask (.status event (status options request)) fun
    | .ok () => .note (submitted (status options request)) (comment event request)
    | .error failure => .done (.error failure)

end StatusMode
end CommitChecks

import CommitChecks.Check
import CommitChecks.Dialogue
import CommitChecks.Failure

/-!
# Collaborators

Reporting a status takes three collaborators: the hosting service, the store of run objects, and the
source of task logs. A call on one of them either fails or has an answer of the call's own type.
-/

namespace CommitChecks

/-- A call on a collaborator. -/
inductive Call where
  | list (event : Event) (applicationId : Option UInt64)
  | create (event : Event) (check : NewCheck)
  | update (event : Event) (id : UInt64) (update : CheckUpdate)
  | status (event : Event) (status : CommitStatus)
  | comment (event : Event) (number : UInt64) (body : String)
  | patch (run : Run) (patch : MetadataPatch)
  | logs (run : Run) (maxLines : UInt64)
  deriving DecidableEq

namespace Call

/-- The kinds of calls. -/
inductive Kind where
  | list
  | create
  | update
  | status
  | comment
  | patch
  | logs
  deriving DecidableEq, Repr

/-- The kind of a call. -/
def kind : Call → Kind
  | list _ _ => .list
  | create _ _ => .create
  | update _ _ _ => .update
  | status _ _ => .status
  | comment _ _ _ => .comment
  | patch _ _ => .patch
  | logs _ _ => .logs

/-- The name of a kind. -/
def Kind.name : Kind → String
  | list => "list"
  | create => "create"
  | update => "update"
  | status => "status"
  | comment => "comment"
  | patch => "patch"
  | logs => "logs"

/-- What a call gives when it succeeds. -/
def Answer : Call → Type
  | list _ _ => List ExistingCheck
  | create _ _ => UInt64
  | update _ _ _ => Unit
  | status _ _ => Unit
  | comment _ _ _ => Unit
  | patch _ _ => Unit
  | logs _ _ => List TaskLog

/-- What a call gives. -/
abbrev Reply (call : Call) : Type :=
  Except Failure call.Answer

end Call

/-- A dialogue with the collaborators. -/
abbrev Conversation (Result : Type) : Type :=
  Dialogue Call Call.Reply Result

end CommitChecks

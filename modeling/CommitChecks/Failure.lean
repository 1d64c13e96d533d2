import CommitChecks.Event

/-!
# Failures

What can go wrong while a status is reported, and the sentences that say so. A failure of the
hosting service, of the store of runs or of the logs is passed on as it was given; the failures that
the library itself raises are listed by name.
-/

namespace CommitChecks

/-- A failure. -/
inductive Failure where
  | configuration (message : String)
  | discovery (message : String)
  | persist (run message : String)
  | submission (operation message : String)
  | invalidState (message : String)
  | config (message : String) (path : Option String)
  | io (message : String)
  deriving DecidableEq

namespace Failure

/-- The name of the kind of a failure. -/
def kind : Failure → String
  | configuration _ => "Configuration"
  | discovery _ => "Discovery"
  | persist _ _ => "Persist"
  | submission _ _ => "Submission"
  | invalidState _ => "InvalidState"
  | config _ _ => "Config"
  | io _ => "Io"

/-- The name of the place a settings text came from. -/
def sourceName (path : Option String) : String :=
  path.getD "<inline>"

/-- The failure as a sentence. -/
def message : Failure → String
  | configuration text => s!"Configuration error: {text}"
  | discovery text => s!"Check discovery failed: {text}"
  | persist run text => s!"Failed to persist check id on run '{run}': {text}"
  | submission operation text => s!"{operation} failed: {text}"
  | invalidState text => s!"Invalid state: {text}"
  | config text path => s!"Invalid configuration in {sourceName path}: {text}"
  | io text => s!"I/O error: {text}"

/-- The code under which the failure is documented. -/
def code : Failure → String
  | configuration _ => "checkrun::configuration"
  | discovery _ => "checkrun::discovery"
  | persist _ _ => "checkrun::persist"
  | submission _ _ => "checkrun::submission"
  | invalidState _ => "checkrun::invalid_state"
  | config _ _ => "checkrun::config"
  | io _ => "checkrun::io"

/-- The advice that goes with the failure. -/
def help : Failure → Option String
  | configuration _ => some "Provide a hosting-service token before reporting status"
  | persist _ _ => some "The next reconciliation of this run will create a duplicate check"
  | _ => none

/-- No hosting service was configured. -/
def noHosting : Failure :=
  configuration "cannot set status: no hosting-service token or url set"

/-- The label that should hold a check's identifier holds something else. -/
def unreadableCheckId (text : String) : Failure :=
  invalidState s!"cannot convert check run id '{text}'"

/-- A comment is due on a pull request whose number is not known. -/
def missingPullRequestNumber (event : Event) : Failure :=
  invalidState s!"pull request event on {event.text} has no number"

/-- A log filter that cannot be read. -/
def invalidFilter : Failure :=
  configuration "Failed to create tracing filter"

/-- A log that is installed already. -/
def alreadyInstalled : Failure :=
  configuration "Failed to install tracing subscriber"

/-- A file that is not there. -/
def fileNotFound : Failure :=
  io "No such file or directory (os error 2)"

/-- A file that does not hold UTF-8. -/
def invalidUtf8 : Failure :=
  io "stream did not contain valid UTF-8"

end Failure
end CommitChecks

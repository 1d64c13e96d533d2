import CommitChecks.Log.Filter

/-!
# Installing the log

The log of a process can be installed once. A configuration whose filter is not valid is refused
first, whether or not a log is installed already. A successful installation writes a first record,
which passes or does not pass the new filter like any other.
-/

namespace CommitChecks.Log

/-- The filter of the installed log, if one is installed. -/
structure Installation where
  filter : Option Filter := none
  deriving DecidableEq

namespace Installation

/-- What the filter sees of the first record. -/
def startCallsite : Callsite where
  level := .info
  target := "checkrun_core::tracing".toList
  fields := ["message", "correlation_id", "version", "format"].map String.toList

/-- Installs a log: the result, and the installation afterwards. -/
def install (installation : Installation) (environment : Option String) (config : Config) :
    Except Failure Unit × Installation :=
  match config.filter? environment with
  | .error failure => (.error failure, installation)
  | .ok filter =>
    match installation.filter with
    | some _ => (.error .alreadyInstalled, installation)
    | none => (.ok (), ⟨some filter⟩)

/-- Installs one configuration after another: the results, and the installation afterwards. -/
def installAll (installation : Installation) (environment : Option String) :
    List Config → List (Except Failure Unit) × Installation
  | [] => ([], installation)
  | config :: rest =>
    let (result, installation) := installation.install environment config
    let (results, installation) := installation.installAll environment rest
    (result :: results, installation)

/-- Whether the first record was written. -/
def loggedStart (installation : Installation) : Bool :=
  installation.filter.any (·.admits startCallsite)

end Installation
end CommitChecks.Log

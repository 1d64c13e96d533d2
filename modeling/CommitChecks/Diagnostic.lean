import CommitChecks.Document.Decoder

/-!
# Annotations

A diagnostic attached to lines of a file on a check.
-/

namespace CommitChecks

/-- How grave an annotation is. -/
inductive Severity where
  | notice
  | warning
  | failure
  deriving DecidableEq, Repr

namespace Severity

/-- The name of a level. -/
def name : Severity → String
  | notice => "notice"
  | warning => "warning"
  | failure => "failure"

/-- All levels in their declared order. -/
def all : List Severity :=
  [notice, warning, failure]

/-- Reads a level. -/
def decode : Decoder Severity :=
  Decoder.variant (all.map fun level => (level.name, level))

end Severity

/-- A diagnostic on some lines of a file. -/
structure Diagnostic where
  path : String
  startLine : UInt32
  endLine : UInt32
  level : Severity
  message : String
  deriving DecidableEq

/-- The end of the log of one failed task. -/
structure TaskLog where
  taskName : String
  text : String
  deriving DecidableEq

end CommitChecks

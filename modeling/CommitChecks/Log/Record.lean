import CommitChecks.Log.Config

/-!
# Log records

What a reconciliation says about itself: single records with a message, and spans under which later
records fall. Fields are texts under their names.
-/

namespace CommitChecks.Log

/-- A log record. -/
inductive Record where
  | event (level : Level) (message : String) (fields : List (String × String))
  | span (level : Level) (name : String) (fields : List (String × String))
  deriving DecidableEq

namespace Record

/-- The record as a document. -/
def toValue : Record → Value
  | event level message fields => .record [
      ("event", .str message),
      ("level", .str level.label),
      ("fields", .record (fields.map fun (name, text) => (name, .str text)))]
  | span level name fields => .record [
      ("span", .str name),
      ("level", .str level.label),
      ("fields", .record (fields.map fun (name, text) => (name, .str text)))]

end Record
end CommitChecks.Log

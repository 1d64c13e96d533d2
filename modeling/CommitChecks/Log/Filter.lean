import CommitChecks.Failure
import CommitChecks.Log.Directive

/-!
# Log filters

A filter is a list of directives separated by commas. Whether a record passes is decided by the most
specific directive that applies to it: the one with the longest target, then the one with the most
fields. Without any directive only errors pass.
-/

namespace CommitChecks.Log

/-- A log filter. -/
structure Filter where
  directives : List Directive
  deriving DecidableEq

/-- What a filter sees of a record: its level, the place it comes from, and the names of its
fields. -/
structure Callsite where
  level : Level
  target : List Char
  fields : List (List Char)

namespace Filter

/-- The pieces of a text between commas. -/
def pieces (text : List Char) : List (List Char) :=
  let (done, current) := text.foldr (fun c (done, current) =>
    if c = ',' then (current :: done, []) else (done, c :: current))
    (([], []) : List (List Char) × List Char)
  current :: done

/-- Reads a filter. Empty pieces are passed over. -/
def read? (text : String) : Option Filter :=
  (((pieces text.toList).filter (· ≠ [])).mapM Directive.read?).map Filter.mk

/-- Whether a directive decides about records by themselves: it asks neither for a span nor for the
value of a field. -/
def isStatic (directive : Directive) : Bool :=
  directive.span = none && directive.fields.all (·.value = none)

/-- Whether a directive applies to a record. -/
def applies (callsite : Callsite) (directive : Directive) : Bool :=
  (directive.target.all fun target => target.isPrefixOf callsite.target) &&
    directive.fields.all fun field => callsite.fields.contains field.name

/-- Whether one list comes before another in the alphabetical order that an order of the items
gives. -/
def comesBefore {α : Type} [DecidableEq α] (before : α → α → Bool) : List α → List α → Bool
  | _, [] => false
  | [], _ :: _ => true
  | x :: xs, y :: ys => before x y || (x = y && comesBefore before xs ys)

/-- Whether one text comes before another in the order of code points. -/
def textBefore : List Char → List Char → Bool :=
  comesBefore fun c d => c.toNat < d.toNat

/-- Whether a directive is at least as specific as another one. Of two equally specific ones the one
that comes later in the alphabet decides. -/
def outranks (left right : Directive) : Bool :=
  let size (directive : Directive) : Nat :=
    match directive.target with
    | some target => (String.ofList target).utf8ByteSize + 1
    | none => 0
  let key (directive : Directive) : List Char := directive.target.getD []
  let names (directive : Directive) : List (List Char) := directive.fields.map fun field => field.name
  if size left ≠ size right then size right < size left
  else if left.fields.length ≠ right.fields.length then right.fields.length < left.fields.length
  else if key left ≠ key right then textBefore (key right) (key left)
  else !comesBefore textBefore (names left) (names right)

/-- The directive that decides about a record; of directives that differ in their level alone, the
last one. -/
def deciding? (directives : List Directive) (callsite : Callsite) : Option Directive :=
  (directives.filter (applies callsite)).foldl
    (fun best directive =>
      match best with
      | none => some directive
      | some best => if outranks directive best then some directive else some best) none

/-- The directives by which a filter decides about records by themselves. -/
def statics (filter : Filter) : List Directive :=
  if filter.directives = [] then [{ threshold := .level .error }]
  else filter.directives.filter isStatic

/-- Whether a record outside of any span passes the filter. -/
def admits (filter : Filter) (callsite : Callsite) : Bool :=
  match deciding? filter.statics callsite with
  | some directive => directive.threshold.admits callsite.level
  | none => false

end Filter

namespace Config

/-- The directives in force when nothing else is given: the configured level for every part of the
library. -/
def defaultDirectives (config : Config) : List String :=
  ["checkrun_core", "checkrun_status", "checkrun_github"].map fun target =>
    s!"{target}={config.level.name}"

/-- The text of the filter in force when nothing else is given. -/
def defaultText (config : Config) : String :=
  ",".intercalate config.defaultDirectives

/-- The filter of a configuration. A filter in the configuration counts alone and has to be valid;
otherwise that of the environment counts if it is valid, and the default if it is not. -/
def filter? (config : Config) (environment : Option String) : Except Failure Filter :=
  let given :=
    match config.filter with
    | some text => Filter.read? text
    | none => environment.bind Filter.read? <|> Filter.read? config.defaultText
  match given with
  | some filter => .ok filter
  | none => .error .invalidFilter

end Config
end CommitChecks.Log

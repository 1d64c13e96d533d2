import CommitChecks.Log.Record
import CommitChecks.Pattern
import CommitChecks.Text.Decimal

/-!
# Filter directives

A directive says down to which level records are wanted: all of them, those of a target, those of
records with certain fields, or those within certain spans. It is written as
`target[span{field=value}]=level`, of which most parts may be left out.
-/

namespace CommitChecks.Log

/-- The least grave level that is wanted, if any is. -/
inductive Threshold where
  | off
  | level (least : Level)
  deriving DecidableEq, Repr

namespace Threshold

/-- Whether records of a level are wanted. -/
def admits : Threshold → Level → Bool
  | off, _ => false
  | level least, wanted => least.rank ≤ wanted.rank

/-- The thresholds by number, from none to all. -/
def ofNumber? : Nat → Option Threshold
  | 0 => some off
  | 1 => some (level .error)
  | 2 => some (level .warn)
  | 3 => some (level .info)
  | 4 => some (level .debug)
  | 5 => some (level .trace)
  | _ => none

/-- The thresholds by name. The empty name stands for errors alone. -/
def names : List (List Char × Threshold) :=
  [([], level .error), ("error".toList, level .error), ("warn".toList, level .warn),
    ("info".toList, level .info), ("debug".toList, level .debug), ("trace".toList, level .trace),
    ("off".toList, off)]

/-- Reads a threshold: a number, or a name in any case. -/
def read? (text : List Char) : Option Threshold :=
  match Decimal.readBelow UInt64.size text with
  | some number =>
    match ofNumber? number with
    | some threshold => some threshold
    | none => none
  | none => names.lookup (text.map Char.toLower)

end Threshold

/-- A field that records have to have; a directive that asks for a value as well looks at spans. -/
structure FieldMatch where
  name : List Char
  value : Option (List Char)
  deriving DecidableEq

/-- A directive of a filter. -/
structure Directive where
  threshold : Threshold := .level .trace
  target : Option (List Char) := none
  span : Option (List Char) := none
  fields : List FieldMatch := []
  deriving DecidableEq

namespace Directive

/-- The digits of a numeral, and what follows them. -/
def digitsOf (text : List Char) : List Char × List Char :=
  (text.takeWhile Char.isDigit, text.dropWhile Char.isDigit)

/-- Whether a text is empty or the exponent of a numeral. -/
def isExponent : List Char → Bool
  | [] => true
  | c :: rest =>
    let digits := match rest with
      | '+' :: digits => digits
      | '-' :: digits => digits
      | digits => digits
    (c = 'e' || c = 'E') && digits ≠ [] && digits.all Char.isDigit

/-- Whether a text without a sign is a number with or without fraction and exponent, or one of the
words for infinity and for what is not a number. -/
def isUnsignedNumber (text : List Char) : Bool :=
  if ["inf", "infinity", "nan"].contains (String.ofList (text.map Char.toLower)) then true
  else
    let (whole, rest) := digitsOf text
    match rest with
    | '.' :: rest =>
      let (fraction, rest) := digitsOf rest
      (whole ≠ [] || fraction ≠ []) && isExponent rest
    | rest => whole ≠ [] && isExponent rest

/-- Whether a text is a number. -/
def isNumber : List Char → Bool
  | '+' :: text => isUnsignedNumber text
  | '-' :: text => isUnsignedNumber text
  | text => isUnsignedNumber text

/-- Whether a part of a pattern asks about words of all scripts, which the patterns of values may
not do. -/
def asksAboutWords : Pattern.Node → Bool
  | .look (.wordBoundary unicode) => unicode
  | .look (.noWordBoundary unicode) => unicode
  | .look (.wordStart unicode) => unicode
  | .look (.wordEnd unicode) => unicode
  | .look (.wordStartHalf unicode) => unicode
  | .look (.wordEndHalf unicode) => unicode
  | .look _ => false
  | .empty => false
  | .set _ => false
  | .seq first second => asksAboutWords first || asksAboutWords second
  | .alt preferred other => asksAboutWords preferred || asksAboutWords other
  | .group _ body => asksAboutWords body
  | .repeated _ _ _ body => asksAboutWords body

/-- Whether a value can be compared with: a number, or a pattern. -/
def isValue (text : List Char) : Bool :=
  isNumber text ||
    match Pattern.compile? (String.ofList text) with
    | some pattern => !asksAboutWords pattern.node
    | none => false

/-- Reads a field: a name, or a name and a value with an equals sign between them. What follows a
second equals sign is ignored. -/
def readField? (text : List Char) : Option FieldMatch :=
  let name := text.takeWhile (· ≠ '=')
  if text = [] then none
  else match text.drop name.length with
    | [] => some ⟨name, none⟩
    | _ :: rest =>
      let value := rest.takeWhile (· ≠ '=')
      if isValue value then some ⟨name, some value⟩ else none

/-- Where the reader of a directive is, and where the part under way started. -/
inductive Position where
  | start
  | levelOrTarget (first : Nat)
  | span (first : Nat)
  | field (first : Nat)
  | fields
  | target
  | level (first : Nat)

/-- The characters of a text from one index to another. -/
def slice (text : List Char) (first last : Nat) : List Char :=
  (text.take last).drop first

/-- A text that is not empty. -/
def nonEmpty? (text : List Char) : Option (List Char) :=
  if text = [] then none else some text

/-- Whether a directive may start with the character. -/
def isStart (c : Char) : Bool :=
  c = '-' || c = ':' || c = '_' || Unicode.isAlphabetic c || Unicode.isNumber c

/-- Reads the character at an index of a directive's text. -/
def step (text : List Char) (index : Nat) (c : Char) :
    Position → Directive → Option (Position × Directive)
  | .start, directive =>
    if c = '[' then some (.span (index + 1), directive)
    else if isStart c then some (.levelOrTarget index, directive)
    else none
  | .levelOrTarget first, directive =>
    let directive' := { directive with target := some (slice text first index) }
    if c = '=' then some (.level (index + 1), directive')
    else if c = '[' then some (.span (index + 1), directive')
    else some (.levelOrTarget first, directive)
  | .target, directive => if c = '=' then some (.level (index + 1), directive) else none
  | .span first, directive =>
    if c = ']' then some (.target, { directive with span := some (slice text first index) })
    else if c = '\x7b' then
      some (.field (index + 1), { directive with span := nonEmpty? (slice text first index) })
    else some (.span first, directive)
  | .field first, directive =>
    if c = '\x7d' then
      (readField? (slice text first index)).map fun field =>
        (.fields, { directive with fields := directive.fields ++ [field] })
    else some (.field first, directive)
  | .fields, directive => if c = ']' then some (.target, directive) else none
  | .level first, directive => some (.level first, directive)

/-- Reads the characters of a directive's text from an index on. -/
def steps (text : List Char) (index : Nat) (position : Position) (directive : Directive) :
    List Char → Option (Position × Directive)
  | [] => some (position, directive)
  | c :: rest =>
    match step text index c position directive with
    | some (position, directive) => steps text (index + 1) position directive rest
    | none => none

/-- The directive at the end of its text. A word alone is a level if it names one and a target of
which all records are wanted otherwise; a level that is left out wants all records. -/
def finish (text : List Char) : Position → Directive → Option Directive
  | .levelOrTarget first, directive =>
    let word := text.drop first
    match word, Threshold.read? word with
    | [], _ => some { directive with threshold := .level .trace, target := none }
    | _, some threshold => some { directive with threshold := threshold, target := none }
    | _, none => some { directive with threshold := .level .trace, target := some word }
  | .level first, directive =>
    match text.drop first with
    | [] => some directive
    | word => (Threshold.read? word).map fun threshold => { directive with threshold := threshold }
  | .target, directive => some directive
  | _, _ => none

/-- A text without blanks at its ends. -/
def trim (text : List Char) : List Char :=
  ((text.dropWhile Unicode.isWhiteSpace).reverse.dropWhile Unicode.isWhiteSpace).reverse

/-- Reads a directive. The text is looked through without the blanks at its ends, but its parts are
cut out of the whole text. -/
def read? (text : List Char) : Option Directive :=
  match steps text 0 .start {} (trim text) with
  | some (position, directive) => finish text position directive
  | none => none

end Directive
end CommitChecks.Log

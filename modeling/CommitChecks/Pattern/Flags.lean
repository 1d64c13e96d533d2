import CommitChecks.Pattern.Node

/-!
# Flags

A pattern may switch its own reading: ignore case, treat lines or the whole text, let a dot match a
line feed, prefer few rounds, count all characters or ASCII, know two-character line ends, and
ignore blanks and comments. A switch holds up to the end of the group it stands in.
-/

namespace CommitChecks.Pattern

/-- The switches of a pattern. -/
structure Flags where
  ignoreCase : Bool := false
  multiLine : Bool := false
  dotAll : Bool := false
  swapGreed : Bool := false
  unicode : Bool := true
  carriageReturns : Bool := false
  ignoreBlanks : Bool := false
  deriving DecidableEq

namespace Flags

/-- The flags with the switch of a letter set, if the letter names one. -/
def set? (flags : Flags) (value : Bool) : Char → Option Flags
  | 'i' => some { flags with ignoreCase := value }
  | 'm' => some { flags with multiLine := value }
  | 's' => some { flags with dotAll := value }
  | 'U' => some { flags with swapGreed := value }
  | 'u' => some { flags with unicode := value }
  | 'R' => some { flags with carriageReturns := value }
  | 'x' => some { flags with ignoreBlanks := value }
  | _ => none

/-- Reads switches up to a colon or a closing parenthesis, where `seen` holds the letters read so
far, and returns the flags, whether anything was switched, and the text from that character on. A
letter, or the dash before the letters to be switched off, may stand only once; a dash needs a
letter after it. -/
def read? (flags : Flags) (value : Bool) (seen : List Char) :
    List Char → Option (Flags × Bool × List Char)
  | [] => none
  | c :: rest =>
    if c = ':' ∨ c = ')' then
      if seen.head? = some '-' then none else some (flags, !seen.isEmpty, c :: rest)
    else if c ∈ seen then none
    else if c = '-' then read? flags false (c :: seen) rest
    else
      match flags.set? value c with
      | some flags => read? flags value (c :: seen) rest
      | none => none

/-- What the start of a line means. -/
def startOfLine (flags : Flags) : Look :=
  if flags.multiLine then if flags.carriageReturns then .anyLineStart else .lineStart
  else .textStart

/-- What the end of a line means. -/
def endOfLine (flags : Flags) : Look :=
  if flags.multiLine then if flags.carriageReturns then .anyLineEnd else .lineEnd
  else .textEnd

/-- What a dot matches. Without Unicode it could match part of a character, which is refused. -/
def dot? (flags : Flags) : Option CharSet :=
  if !flags.unicode then none
  else if flags.dotAll then some .all
  else if flags.carriageReturns then some (CharSet.negate ⟨[(0x0A, 0x0A), (0x0D, 0x0D)]⟩)
  else some (CharSet.single '\n').negate

/-- A set with case ignored if the flags ask for it. -/
def fold (flags : Flags) (set : CharSet) : CharSet :=
  if !flags.ignoreCase then set
  else if flags.unicode then NamedSet.ignoreCase set
  else NamedSet.ignoreAsciiCase set

/-- A set, or all other characters. Without Unicode the result has to be ASCII. -/
def negateIf? (flags : Flags) (negated : Bool) (set : CharSet) : Option CharSet :=
  let result := if negated then set.negate else set
  if flags.unicode || result.isAscii then some result else none

/-- A set with case ignored, or all other characters. -/
def foldAndNegate? (flags : Flags) (negated : Bool) (set : CharSet) : Option CharSet :=
  flags.negateIf? negated (flags.fold set)

end Flags
end CommitChecks.Pattern

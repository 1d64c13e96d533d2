import CommitChecks.Pattern.Backtracking
import CommitChecks.Pattern.Parser
import CommitChecks.Pattern.Program

/-!
# Patterns

A pattern is compiled from its text and finds its first match in a line: the leftmost one, and of
several matches at one place the one that the pattern prefers.
-/

namespace CommitChecks

/-- A compiled pattern. -/
structure Pattern where
  text : String
  node : Pattern.Node
  deriving DecidableEq

namespace Pattern

/-- Compiles a pattern. -/
def compile? (text : String) : Option Pattern :=
  (Parser.read? text.toList).map (⟨text, ·⟩)

/-- The names of the pattern's groups. -/
def groupNames (pattern : Pattern) : List String :=
  pattern.node.groupNames

/-- What the groups match where the pattern first matches in a line. Plain backtracking serves for a
flat pattern that is tried at a single place; it is quick there and needs no memory. -/
def captures? (pattern : Pattern) (line : List Char) : Option Captures :=
  if pattern.node.isFlat && pattern.node.isAnchored then pattern.node.backtrack line
  else (Program.ofNode pattern.node).search line

end Pattern
end CommitChecks

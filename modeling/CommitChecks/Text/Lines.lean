/-!
# Lines of a log

A log text is cut at line feeds. One carriage return in front of a line feed belongs to the line
end and is dropped; a last line without a line feed is a line too, unless it is empty, and keeps its
carriage returns. Nothing else ends a line.
-/

namespace CommitChecks

/-- A line that a line feed ended, without the carriage return of a two-character line end. -/
def dropLineEnd (line : List Char) : List Char :=
  if line.getLast? = some '\r' then line.dropLast else line

/-- The lines of a log text, where `line` holds the characters of the current line in reverse. -/
def logLinesFrom (line : List Char) : List Char → List (List Char)
  | [] => if line = [] then [] else [line.reverse]
  | c :: rest =>
    if c = '\n' then dropLineEnd line.reverse :: logLinesFrom [] rest
    else logLinesFrom (c :: line) rest

/-- The lines of a log text. -/
def logLines (text : String) : List (List Char) :=
  logLinesFrom [] text.toList

end CommitChecks

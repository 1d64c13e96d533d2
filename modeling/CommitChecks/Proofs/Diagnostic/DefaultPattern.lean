import CommitChecks.Proofs.Diagnostic.ErrorLine
import CommitChecks.Proofs.Diagnostic.Linewise
import CommitChecks.Proofs.Pattern.CharSet
import CommitChecks.Proofs.Pattern.GreedyRuns
import Mathlib.Data.List.Basic
import Mathlib.Data.List.TakeWhile

/-!
# The default pattern of error lines

The default pattern is made of runs, each of which can be matched in one way only: the file and the number
are ended by colons that cannot belong to them, and what follows accepts every place. So matching it is
the same as cutting a line at its first two colons and dropping digits and spaces behind them.
-/

namespace CommitChecks

namespace Pattern

/-- The texts that groups matched in a line, by name, the latest match first. -/
def Captures.texts (captures : Captures) (line : List Char) : List (String × List Char) :=
  captures.map fun capture =>
    (capture.name, (line.drop capture.first).take (capture.last - capture.first))

theorem Captures.get?_eq_lookup (captures : Captures) (line : List Char) (name : String) :
    captures.get? line name = (captures.texts line).lookup name := by
  induction captures with
  | nil => rfl
  | cons capture captures ih =>
    rw [get?] at ih ⊢
    rw [texts, List.map_cons, List.lookup_cons, List.find?_cons]
    by_cases same : capture.name = name
    · simp [same]
    · have other : (name == capture.name) = false := by simpa using Ne.symm same
      simp [same, other, ih, texts]

end Pattern

namespace DefaultPattern

open Pattern Node

variable {next : Continuation} {place : Place} {captures : Captures}

/-! ## Its parts -/

/-- The message: the rest of the line. -/
def message : Node :=
  group "error" (repeated 0 none true (set (CharSet.single '\n').negate))

/-- The spaces in front of the message. -/
def spaces : Node :=
  repeated 0 (some 1) true (repeated 0 none true (set (.single ' ')))

/-- The number of a column. -/
def column : Node :=
  repeated 0 (some 1) true (group "column" (repeated 1 none true (set NamedSet.asciiDigits)))

/-- What follows the number of a line and its colon. -/
def following : Node :=
  seq column (seq spaces message)

/-- The number of a line, ended by a colon, and what follows. -/
def numbered : Node :=
  seq (group "line" (repeated 1 none true (set NamedSet.asciiDigits)))
    (seq (set (.single ':')) following)

/-- The structure of the pattern. -/
def node : Node :=
  seq (look .textStart)
    (seq (group "filename" (repeated 0 none true (set (CharSet.single ':').negate)))
      (seq (set (.single ':')) numbered))

/-- The compiled pattern. -/
def pattern : Pattern :=
  ⟨Options.defaultErrorPattern, node⟩

theorem compile?_eq : compile? Options.defaultErrorPattern = some pattern := by
  decide +kernel

theorem missingGroups_eq : pattern.missingGroups = [] := by
  decide +kernel

/-! ## What its parts match -/

/-- A named run that is ended by a character which does not belong to it. -/
theorem match_field_eq {least : Nat} {name : String} {chars : CharSet} {inside : Char → Bool}
    (members : ∀ c, chars.contains c = inside c) {stop : Char} (outside : inside stop = false)
    (following : Node) :
    (seq (group name (repeated least none true (set chars)))
        (seq (set (.single stop)) following)).match next place captures =
      (cutAt inside stop place.rest).bind fun (run, rest) =>
        if least ≤ run.length then
          following.match next ((place.past chars).after stop rest)
            (⟨name, place.position, (place.past chars).position⟩ :: captures)
        else none := by
  obtain rfl : chars.contains = inside := funext members
  have apart : ∀ c, chars.contains c = true → (CharSet.single stop).contains c = false := by
    intro c belongs
    rw [CharSet.contains_single, decide_eq_false_iff_not]
    rintro rfl
    rw [outside] at belongs
    contradiction
  rw [match_field apart, match_seq, cutAt]
  cases behind : place.rest.dropWhile chars.contains with
  | nil =>
    rw [match_set_of_nil (by rw [Place.past_rest, behind]), ite_self]
    rfl
  | cons c rest =>
    rw [match_set_of_cons (by rw [Place.past_rest, behind]), CharSet.contains_single]
    by_cases ended : c = stop
    · subst ended
      simp only [decide_true, if_true, Option.bind_some]
      rfl
    · simp [ended]

/-- What is found when nothing comes after. -/
def finish : Continuation := fun _ captures => some captures

theorem match_message (place : Place) (captures : Captures) :
    message.match finish place captures =
      some (⟨"error", place.position, (place.past (CharSet.single '\n').negate).position⟩ ::
        captures) := by
  rw [message, match_group, match_run_of_accepted (Nat.zero_le _) rfl]
  rfl

theorem match_spaces (place : Place) (captures : Captures) :
    spaces.match (message.match finish) place captures =
      message.match finish (place.past (.single ' ')) captures := by
  have accepted (place : Place) : (message.match finish place captures).isSome = true := by
    rw [match_message, Option.isSome_some]
  rw [spaces, match_optional rfl, match_run_of_accepted (Nat.zero_le _) (accepted _),
    Option.or_of_isSome (accepted _)]

/-- After the number of a line the pattern matches whatever stands there: the digits of a column if there
are any, then spaces, and the rest up to a line feed as the message. -/
theorem match_following (place : Place) (captures : Captures) :
    let digits := place.past NamedSet.asciiDigits
    let start := digits.past (.single ' ')
    following.match finish place captures =
      some (⟨"error", start.position, (start.past (CharSet.single '\n').negate).position⟩ ::
        if place.run NamedSet.asciiDigits = [] then captures
        else ⟨"column", place.position, digits.position⟩ :: captures) := by
  intro digits start
  rw [following, match_seq, match_seq, column, match_optional rfl, match_group]
  by_cases empty : place.run NamedSet.asciiDigits = []
  · have short : (place.run NamedSet.asciiDigits).length < 1 := by simp [empty]
    rw [match_run_of_short short, Option.none_or, match_spaces, match_message, if_pos empty,
      ← Place.past_of_run_eq_nil empty]
  · rw [match_run_of_accepted (List.length_pos_iff.2 empty)]
    · rw [match_spaces, match_message, Option.some_or, if_neg empty]
    · rw [match_spaces, match_message, Option.isSome_some]

theorem run_of_cutAt {chars : CharSet} {inside : Char → Bool} (members : ∀ c, chars.contains c = inside c)
    {stop : Char} {run rest : List Char} (found : cutAt inside stop place.rest = some (run, rest)) :
    place.run chars = run ∧ (place.past chars).rest = stop :: rest := by
  obtain rfl : chars.contains = inside := funext members
  unfold cutAt at found
  split at found
  · contradiction
  · rename_i c after behind
    split at found
    · rename_i ended
      cases found
      exact ⟨rfl, by rw [Place.past_rest, behind, ended]⟩
    · contradiction

/-! ## What its groups match -/

/-- Gives, from the text that is left of a line and from what groups have matched before, what groups
match in the line. -/
abbrev Reader := List Char → List (String × List Char) → Option (List (String × List Char))

/-- Whether matching the rest of a line comes to reading the text that is left there. -/
def Reads (part : Node) (read : Reader) : Prop :=
  ∀ ⦃line place⦄, Place.On place line → '\n' ∉ place.rest → ∀ captures : Captures,
    (part.match finish place captures).map (Captures.texts · line) =
      read place.rest (captures.texts line)

/-- Reads the digits of a column, if there are any, and a message after spaces. -/
def readFollowing : Reader := fun rest found =>
  let column := rest.takeWhile Char.isDigit
  let message := (rest.dropWhile Char.isDigit).dropWhile (· = ' ')
  some (("error", message) :: if column = [] then found else ("column", column) :: found)

/-- Reads a run of some length that is ended by another character, and goes on behind that. -/
def readField (least : Nat) (name : String) (inside : Char → Bool) (stop : Char) (read : Reader) : Reader :=
  fun text found => (cutAt inside stop text).bind fun (run, rest) =>
    if least ≤ run.length then read rest ((name, run) :: found) else none

theorem reads_following : Reads following readFollowing := by
  intro line place on unbroken captures
  let digits := place.past NamedSet.asciiDigits
  let start := digits.past (.single ' ')
  have onStart : start.On line := (on.past _).past _
  have columnRun : place.run NamedSet.asciiDigits = place.rest.takeWhile Char.isDigit :=
    congrArg (place.rest.takeWhile ·) (funext CharSet.contains_asciiDigits)
  have startRest : start.rest = (place.rest.dropWhile Char.isDigit).dropWhile (· = ' ') := by
    rw [Place.past_rest, Place.past_rest, funext CharSet.contains_asciiDigits,
      funext (CharSet.contains_single ' ')]
  -- The message takes all that is left, since there is no line feed in it.
  have messageRun : start.run (CharSet.single '\n').negate = start.rest := by
    rw [Place.run, funext (CharSet.contains_negate_single '\n'), List.takeWhile_eq_self_iff]
    intro c member
    have inside : c ∈ place.rest := by
      rw [startRest] at member
      exact (List.dropWhile_sublist _).subset ((List.dropWhile_sublist _).subset member)
    exact decide_eq_true fun same => unbroken (same ▸ inside)
  rw [match_following, Option.map_some, Captures.texts, List.map_cons, onStart.take_run, messageRun,
    startRest, columnRun]
  dsimp only [readFollowing]
  split
  · rfl
  · rw [List.map_cons, on.take_run, columnRun]
    rfl

/-- A named run in front of its end is read by cutting the text there. -/
theorem reads_field (least : Nat) (name : String) {chars : CharSet} {inside : Char → Bool}
    (members : ∀ c, chars.contains c = inside c) {stop : Char} (outside : inside stop = false)
    {following : Node} {read : Reader} (reads : Reads following read) :
    Reads (seq (group name (repeated least none true (set chars))) (seq (set (.single stop)) following))
      (readField least name inside stop read) := by
  intro line place on unbroken captures
  rw [match_field_eq members outside, readField]
  cases found : cutAt inside stop place.rest with
  | none => rfl
  | some cut =>
    obtain ⟨run, rest⟩ := cut
    obtain ⟨ran, follows⟩ := run_of_cutAt members found
    have behind : ((place.past chars).after stop rest).On line := (on.past chars).after follows
    have unbrokenRest : '\n' ∉ rest := by
      rw [((cutAt_eq_some_iff outside).1 found).1] at unbroken
      exact fun member => unbroken (List.mem_append_right run (List.mem_cons_of_mem stop member))
    simp only [Option.bind_some]
    split
    · rw [reads behind unbrokenRest, Captures.texts, List.map_cons, on.take_run, ran]
      rfl
    · rfl

/-- What the groups match in a line that has the parts. -/
def groups (parts : ErrorLine) : List (String × List Char) :=
  ("error", parts.message) ::
    if parts.column = [] then [("line", parts.number), ("filename", parts.file)]
    else [("column", parts.column), ("line", parts.number), ("filename", parts.file)]

theorem lookup_groups_error (parts : ErrorLine) : (groups parts).lookup "error" = some parts.message := rfl

theorem lookup_groups_line (parts : ErrorLine) : (groups parts).lookup "line" = some parts.number := by
  unfold groups
  split <;> rfl

theorem lookup_groups_filename (parts : ErrorLine) :
    (groups parts).lookup "filename" = some parts.file := by
  unfold groups
  split <;> rfl

/-- Reading a whole line is cutting it at its first two colons. -/
theorem readField_eq_map_read? (line : List Char) :
    readField 0 "filename" ErrorLine.isNoColon ':' (readField 1 "line" Char.isDigit ':' readFollowing)
        line [] = (ErrorLine.read? line).map groups := by
  rw [readField, ErrorLine.read?, Option.map_bind]
  refine Option.bind_congr ?_
  rintro ⟨file, text⟩ -
  dsimp only [Function.comp_apply]
  rw [if_pos (Nat.zero_le _), readField, ErrorLine.readNumbered?, Option.map_bind]
  refine Option.bind_congr ?_
  rintro ⟨number, rest⟩ -
  have long : 1 ≤ number.length ↔ ¬ number = [] := List.length_pos_iff
  simp only [long, ite_not, Function.comp_apply, apply_ite (Option.map groups)]
  rfl

/-- What the groups match in a line is what it is cut into. -/
theorem texts_captures {line : List Char} (unbroken : '\n' ∉ line) :
    (pattern.captures? line).map (Captures.texts · line) = (ErrorLine.read? line).map groups := by
  have numberedReads : Reads numbered (readField 1 "line" Char.isDigit ':' readFollowing) :=
    reads_field 1 "line" CharSet.contains_asciiDigits ErrorLine.isDigit_colon reads_following
  have reads := reads_field 0 "filename" (CharSet.contains_negate_single ':') ErrorLine.isNoColon_colon
    numberedReads
  have anchored : node.isAnchored = true := rfl
  rw [Pattern.captures?, if_pos (by decide), show pattern.node = node from rfl,
    backtrack_of_isAnchored anchored, node, match_seq, match_textStart, ← readField_eq_map_read?]
  exact reads (Place.On.start line) unbroken []

/-- A line gives what the parts that it is cut into give. -/
theorem ofLine_eq {line : List Char} (unbroken : '\n' ∉ line) :
    Extractor.ofLine pattern line =
      match ErrorLine.read? line with
      | some parts => Extractor.ofGroups parts.file parts.number parts.message
      | none => .unmatched := by
  have texts := texts_captures unbroken
  rw [Extractor.ofLine]
  cases matched : pattern.captures? line with
  | none =>
    rw [matched, Option.map_none, eq_comm, Option.map_eq_none_iff] at texts
    rw [texts]
  | some captures =>
    rw [matched, Option.map_some, eq_comm, Option.map_eq_some_iff] at texts
    obtain ⟨parts, read, same⟩ := texts
    simp only [Captures.get?_eq_lookup, ← same, read, lookup_groups_filename, lookup_groups_line,
      lookup_groups_error]

theorem diagnostic?_ofLine {line : List Char} (unbroken : '\n' ∉ line) :
    (Extractor.ofLine pattern line).diagnostic? = ErrorLine.diagnose? line := by
  rw [ofLine_eq unbroken, ErrorLine.diagnose?]
  cases read : ErrorLine.read? line with
  | none => rfl
  | some parts => exact ErrorLine.diagnostic?_ofGroups (ErrorLine.read?_eq_some_iff.1 read).1

/-- The annotations of logs are those of their error lines. -/
theorem annotations_eq (logs : List TaskLog) :
    (Extractor.extractWith Options.defaultErrorPattern logs).annotations =
      (logs.flatMap fun log => logLines log.text).filterMap ErrorLine.diagnose? := by
  rw [Extractor.extractWith_eq_ofLogs compile?_eq missingGroups_eq, Extractor.annotations_ofLogs]
  refine List.filterMap_congr fun line member => ?_
  obtain ⟨log, -, inLog⟩ := List.mem_flatMap.1 member
  exact diagnostic?_ofLine (not_mem_of_mem_logLines inLog)

end DefaultPattern
end CommitChecks

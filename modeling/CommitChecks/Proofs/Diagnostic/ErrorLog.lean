import CommitChecks.Proofs.Diagnostic.DefaultPattern

/-!
# Error logs

Under the default pattern an error line gives the annotation for its parts, and no other line gives any. So
errors that are written one a line come back in order. The number of a column in front of the message is left
out of it, but a colon between the two is not.
-/

namespace CommitChecks

/-- An error at a line of a file, of the form that can be written in one line of a log. -/
structure ErrorEntry where
  path : String
  line : UInt32
  message : String
  pathFree : ':' ∉ path.toList
  pathUnbroken : '\n' ∉ path.toList
  positive : 0 < line
  messageUnbroken : '\n' ∉ message.toList
  messageUnspaced : message.toList.head? ≠ some ' '
  messageUnended : message.toList.getLast? ≠ some '\r'

namespace ErrorEntry

/-- The annotation for an entry. -/
def diagnostic (entry : ErrorEntry) : Diagnostic where
  path := String.ofList (Extractor.repositoryPath entry.path.toList)
  startLine := entry.line
  endLine := entry.line
  level := .failure
  message := entry.message

/-- The line for an entry. -/
def text (entry : ErrorEntry) : String :=
  entry.path ++ ":" ++ entry.line.toNat.repr ++ ": " ++ entry.message

/-- The line for an entry that names a column as well. -/
def textAtColumn (entry : ErrorEntry) (column separator : String) : String :=
  entry.path ++ ":" ++ entry.line.toNat.repr ++ ":" ++ column ++ separator ++ entry.message

/-- The parts of a line that starts with the path and the number of an entry. -/
def parts (entry : ErrorEntry) (rest : List Char) : ErrorLine :=
  ⟨entry.path.toList, Nat.toDigits 10 entry.line.toNat, rest⟩

variable (entry : ErrorEntry) (rest : List Char)

theorem parts_value : (entry.parts rest).value = entry.line.toNat :=
  Nat.ofDigitChars_ten_toDigits

theorem parts_valid : (entry.parts rest).Valid where
  file := entry.pathFree
  numbered := Nat.toDigits_ne_nil
  digits := List.all_eq_true.1 (Decimal.all_isDigit_toDigits _)
  positive := by
    rw [parts_value]
    exact entry.positive
  bounded := by
    rw [parts_value]
    exact entry.line.toNat_lt_size

/-- A line that starts as an entry gives its annotation, with what is left as the message. -/
theorem parts_diagnostic {message : String}
    (left : (rest.dropWhile Char.isDigit).dropWhile (· = ' ') = message.toList) :
    (entry.parts rest).diagnostic = { entry.diagnostic with message := message } := by
  rw [ErrorLine.diagnostic, parts_value, UInt32.ofNat_toNat, ErrorLine.message]
  dsimp only [parts, diagnostic]
  rw [left, String.ofList_toList]

theorem text_toList : entry.text.toList = (entry.parts (' ' :: entry.message.toList)).text := by
  simp [text, parts, ErrorLine.text]

theorem textAtColumn_toList (column separator : String) :
    (entry.textAtColumn column separator).toList =
      (entry.parts (column.toList ++ separator.toList ++ entry.message.toList)).text := by
  simp [textAtColumn, parts, ErrorLine.text]

theorem not_mem_parts_text {rest : List Char} (unbroken : '\n' ∉ rest) :
    '\n' ∉ (entry.parts rest).text := by
  have digits : '\n' ∉ Nat.toDigits 10 entry.line.toNat :=
    fun member => absurd (List.all_eq_true.1 (Decimal.all_isDigit_toDigits _) _ member) (by decide)
  simp [ErrorLine.text, parts, entry.pathUnbroken, digits, unbroken]

/-- The line for an entry comes back from a log in which a line feed ends it. -/
theorem text_whole : '\n' ∉ entry.text.toList ∧ entry.text.toList.getLast? ≠ some '\r' := by
  rw [text_toList]
  refine ⟨entry.not_mem_parts_text (by simp [entry.messageUnbroken]), ?_⟩
  have ended := entry.messageUnended
  cases message : entry.message.toList.getLast? with
  | none => simp [ErrorLine.text, parts, List.getLast?_cons, message]
  | some c =>
    rw [message] at ended
    simpa [ErrorLine.text, parts, List.getLast?_cons, message] using ended

theorem dropWhile_spaces_message : entry.message.toList.dropWhile (· = ' ') = entry.message.toList := by
  have unspaced := entry.messageUnspaced
  cases message : entry.message.toList with
  | nil => rfl
  | cons c rest =>
    rw [message] at unspaced
    exact List.dropWhile_cons_of_neg (by simpa using unspaced)

end ErrorEntry

namespace Extractor

theorem annotations_of_log (task text : String) :
    (extractWith Options.defaultErrorPattern [⟨task, text⟩]).annotations =
      (logLines text).filterMap ErrorLine.diagnose? := by
  rw [DefaultPattern.annotations_eq, List.flatMap_singleton]

/-- A log of a single line gives what the line gives. -/
theorem annotations_of_line (task : String) {line : String} (unbroken : '\n' ∉ line.toList) :
    (extractWith Options.defaultErrorPattern [⟨task, line⟩]).annotations =
      (ErrorLine.diagnose? line.toList).toList := by
  have lines : logLines line = if line.toList = [] then [] else [line.toList] := by
    simpa using logLines_ofList unbroken
  rw [annotations_of_log, lines]
  split
  · rename_i empty
    rw [empty]
    rfl
  · rw [List.filterMap_cons, List.filterMap_nil]
    cases ErrorLine.diagnose? line.toList <;> rfl

/-- A log of entries, one a line, has the lines for them. -/
theorem logLines_entries (entries : List ErrorEntry) :
    logLines (String.join (entries.map fun entry => entry.text ++ "\n")) =
      entries.map fun entry => entry.text.toList := by
  have whole : ∀ line ∈ entries.map fun entry => entry.text.toList,
      '\n' ∉ line ∧ line.getLast? ≠ some '\r' :=
    List.forall_mem_map.2 fun entry _ => entry.text_whole
  calc logLines (String.join (entries.map fun entry => entry.text ++ "\n"))
    _ = logLinesFrom [] ((entries.map fun entry => entry.text.toList).flatMap (· ++ ['\n'])) := by
      simp [logLines, List.flatMap_map]
    _ = _ := logLinesFrom_flatMap whole

/-- A line that starts with the path and the number of an entry gives the annotation of the entry, with
what is left as the message. -/
theorem diagnose?_parts (entry : ErrorEntry) {rest : List Char} {message : String}
    (left : (rest.dropWhile Char.isDigit).dropWhile (· = ' ') = message.toList) :
    ErrorLine.diagnose? (entry.parts rest).text = some { entry.diagnostic with message := message } := by
  rw [ErrorLine.diagnose?_text (entry.parts_valid rest), entry.parts_diagnostic rest left]

theorem diagnose?_text (entry : ErrorEntry) :
    ErrorLine.diagnose? entry.text.toList = some entry.diagnostic := by
  rw [entry.text_toList]
  refine diagnose?_parts entry ?_
  rw [List.dropWhile_cons_of_neg (by decide), List.dropWhile_cons_of_pos (by decide),
    entry.dropWhile_spaces_message]

/-- Under the default pattern a line gives an annotation if and only if it is cut by two colons into a file, a
positive number of 32 bits and a rest; the annotation is the one for these parts. Entries written one a
line come back in order. -/
theorem default_pattern_reads_error_lines (task : String) :
    (∀ line : String, '\n' ∉ line.toList →
      (∀ found, (extractWith Options.defaultErrorPattern [⟨task, line⟩]).annotations = [found] ↔
        ∃ parts : ErrorLine, parts.Valid ∧ parts.text = line.toList ∧ parts.diagnostic = found) ∧
      ((extractWith Options.defaultErrorPattern [⟨task, line⟩]).annotations = [] ↔
        ∀ parts : ErrorLine, parts.Valid → parts.text ≠ line.toList)) ∧
    ∀ entries : List ErrorEntry,
      (extractWith Options.defaultErrorPattern
        [⟨task, String.join (entries.map fun entry => entry.text ++ "\n")⟩]).annotations =
          entries.map ErrorEntry.diagnostic := by
  refine ⟨fun line unbroken => ?single, fun entries => ?log⟩
  case single =>
    rw [annotations_of_line task unbroken]
    refine ⟨fun found => ?_, ?_⟩
    · rw [← ErrorLine.diagnose?_eq_some_iff, Option.toList_eq_singleton_iff]
    · rw [← ErrorLine.diagnose?_eq_none_iff, Option.toList_eq_nil_iff]
  case log =>
    rw [annotations_of_log, logLines_entries, List.filterMap_map, ← List.filterMap_eq_map]
    exact List.filterMap_congr fun entry _ => diagnose?_text entry

/-- A line with a column, whose path is shortened, and one whose number is too large by one. -/
theorem default_pattern_reads_error_lines_up_to_bound :
    let annotations := fun line => (extractWith Options.defaultErrorPattern [⟨"build", line⟩]).annotations
    let found := "./src/lib.rs:4294967295:7  cannot find: value"
    let missed := "./src/lib.rs:4294967296:7  cannot find: value"
    '\n' ∉ found.toList ∧ '\n' ∉ missed.toList ∧
      annotations found = [⟨"src/lib.rs", 4294967295, 4294967295, .failure, "cannot find: value"⟩] ∧
      annotations missed = [] := by
  intro annotations found missed
  have foundUnbroken : '\n' ∉ found.toList := by decide +kernel
  have missedUnbroken : '\n' ∉ missed.toList := by decide +kernel
  have reads := (default_pattern_reads_error_lines "build").1
  refine ⟨foundUnbroken, missedUnbroken, ?_, ?_⟩
  · refine ((reads found foundUnbroken).1 _).2 (ErrorLine.diagnose?_eq_some_iff.1 ?_)
    decide +kernel
  · refine (reads missed missedUnbroken).2.2 (ErrorLine.diagnose?_eq_none_iff.1 ?_)
    decide +kernel

/-- The digits of a column are dropped from a line, and the spaces that follow them. -/
theorem annotations_textAtColumn (task : String) (entry : ErrorEntry) {column separator message : String}
    (digits : column.toList.all Char.isDigit = true) (unbroken : '\n' ∉ separator.toList)
    (left : ((separator.toList ++ entry.message.toList).dropWhile Char.isDigit).dropWhile (· = ' ') =
      message.toList) :
    (extractWith Options.defaultErrorPattern [⟨task, entry.textAtColumn column separator⟩]).annotations =
      [{ entry.diagnostic with message := message }] := by
  have text := entry.textAtColumn_toList column separator
  have inside := List.all_eq_true.1 digits
  have unbrokenColumn : '\n' ∉ column.toList := fun member => absurd (inside _ member) (by decide)
  rw [annotations_of_line, text, diagnose?_parts entry, Option.toList_some]
  · rw [List.append_assoc, List.dropWhile_append_of_pos inside, left]
  · rw [text]
    exact entry.not_mem_parts_text (by simp [unbrokenColumn, unbroken, entry.messageUnbroken])

/-- The number of a column is left out of the message, but a colon behind it is not: it ends up in front
of the message together with the space that follows it. -/
theorem column_colon_stays_in_message (task : String) (entry : ErrorEntry) {column : String}
    (digits : column.toList.all Char.isDigit = true) :
    let annotations := fun line => (extractWith Options.defaultErrorPattern [⟨task, line⟩]).annotations
    annotations (entry.textAtColumn column ": ") =
        [{ entry.diagnostic with message := ": " ++ entry.message }] ∧
      annotations (entry.textAtColumn column " ") = [entry.diagnostic] := by
  intro annotations
  constructor
  · exact annotations_textAtColumn task entry digits (by decide) (by rw [String.toList_append]; rfl)
  · refine annotations_textAtColumn task entry digits (by decide) ?_
    exact entry.dropWhile_spaces_message

/-- An error as compilers write it, whose message is found behind a colon and a space. -/
theorem column_colon_stays_in_message_of_compiler :
    "5".toList.all Char.isDigit = true ∧
      (extractWith Options.defaultErrorPattern [⟨"build", "src/lib.rs:12:5: cannot find value"⟩]).annotations =
        [⟨"src/lib.rs", 12, 12, .failure, ": cannot find value"⟩] := by
  let entry : ErrorEntry := ⟨"src/lib.rs", 12, "cannot find value", by decide +kernel, by decide +kernel,
    by decide, by decide +kernel, by decide +kernel, by decide +kernel⟩
  have digits : "5".toList.all Char.isDigit = true := by decide +kernel
  have text : entry.textAtColumn "5" ": " = "src/lib.rs:12:5: cannot find value" := by decide +kernel
  have diagnostic : { entry.diagnostic with message := ": " ++ entry.message } =
      ⟨"src/lib.rs", 12, 12, .failure, ": cannot find value"⟩ := by decide +kernel
  rw [← text, ← diagnostic]
  exact ⟨digits, (column_colon_stays_in_message "build" entry digits).1⟩

/-- The message alone is not what such a line gives. -/
theorem column_colon_is_not_dropped :
    (extractWith Options.defaultErrorPattern [⟨"build", "src/lib.rs:12:5: cannot find value"⟩]).annotations ≠
      [⟨"src/lib.rs", 12, 12, .failure, "cannot find value"⟩] := by
  decide +kernel

end Extractor
end CommitChecks

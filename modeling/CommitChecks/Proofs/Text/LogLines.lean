import CommitChecks.Text.Lines

/-!
# Cutting logs into lines

A log that is cut after a line feed has the lines of both parts, and lines that are each ended by a line
feed come back as they were. No line holds a line feed. Where the text has no carriage returns of its
own, it makes no difference whether its lines end in one character or in two.
-/

namespace CommitChecks

theorem dropLineEnd_of_getLast? {line : List Char} (unended : line.getLast? ≠ some '\r') :
    dropLineEnd line = line :=
  if_neg unended

theorem dropLineEnd_concat (line : List Char) : dropLineEnd (line ++ ['\r']) = line := by
  simp [dropLineEnd]

theorem mem_of_mem_dropLineEnd {line : List Char} {c : Char} (member : c ∈ dropLineEnd line) :
    c ∈ line := by
  unfold dropLineEnd at member
  split at member
  · exact (List.dropLast_sublist line).subset member
  · exact member

theorem logLinesFrom_line_feed (line rest : List Char) :
    logLinesFrom line ('\n' :: rest) = dropLineEnd line.reverse :: logLinesFrom [] rest :=
  if_pos rfl

theorem logLinesFrom_cons {c : Char} (inside : c ≠ '\n') (line rest : List Char) :
    logLinesFrom line (c :: rest) = logLinesFrom (c :: line) rest :=
  if_neg inside

/-- Characters other than line feeds go on with the current line. -/
theorem logLinesFrom_append {text : List Char} (unbroken : '\n' ∉ text) (line rest : List Char) :
    logLinesFrom line (text ++ rest) = logLinesFrom (text.reverse ++ line) rest := by
  induction text generalizing line with
  | nil => rfl
  | cons c text ih =>
    obtain ⟨first, others⟩ := List.ne_and_not_mem_of_not_mem_cons unbroken
    rw [List.cons_append, logLinesFrom_cons first.symm, ih others, List.reverse_cons, List.append_assoc,
      List.singleton_append]

/-- A line feed starts a new line whatever stands before it. -/
theorem logLinesFrom_append_line_feed (line before after : List Char) :
    logLinesFrom line (before ++ '\n' :: after) =
      logLinesFrom line (before ++ ['\n']) ++ logLinesFrom [] after := by
  induction before generalizing line with
  | nil => simp [logLinesFrom]
  | cons c before ih =>
    by_cases ended : c = '\n'
    · subst ended
      rw [List.cons_append, List.cons_append, logLinesFrom_line_feed, logLinesFrom_line_feed, ih,
        List.cons_append]
    · rw [List.cons_append, List.cons_append, logLinesFrom_cons ended, logLinesFrom_cons ended, ih]

/-- A text cut after a line feed has the lines of both parts. -/
theorem logLines_append_line_feed (before after : String) :
    logLines (before ++ "\n" ++ after) = logLines (before ++ "\n") ++ logLines after := by
  simpa [logLines] using logLinesFrom_append_line_feed [] before.toList after.toList

/-- A text without line feeds is a single line, unless it is empty. -/
theorem logLines_ofList {text : List Char} (unbroken : '\n' ∉ text) :
    logLines (String.ofList text) = if text = [] then [] else [text] := by
  have reading := logLinesFrom_append unbroken [] []
  rw [List.append_nil, List.append_nil] at reading
  rw [logLines, String.toList_ofList, reading]
  simp [logLinesFrom]

/-- Lines that are each ended by a line feed come back as they were. -/
theorem logLinesFrom_flatMap {lines : List (List Char)}
    (whole : ∀ line ∈ lines, '\n' ∉ line ∧ line.getLast? ≠ some '\r') :
    logLinesFrom [] (lines.flatMap (· ++ ['\n'])) = lines := by
  induction lines with
  | nil => rfl
  | cons line lines ih =>
    obtain ⟨⟨unbroken, unended⟩, others⟩ := List.forall_mem_cons.1 whole
    rw [List.flatMap_cons, List.append_assoc, logLinesFrom_append unbroken, List.singleton_append,
      logLinesFrom_line_feed, List.append_nil, List.reverse_reverse, dropLineEnd_of_getLast? unended,
      ih others]

theorem not_mem_of_mem_logLinesFrom {current text : List Char} (unbroken : '\n' ∉ current)
    {line : List Char} (member : line ∈ logLinesFrom current text) : '\n' ∉ line := by
  induction text generalizing current with
  | nil =>
    rw [logLinesFrom] at member
    split at member
    · exact nomatch member
    · obtain rfl := List.mem_singleton.1 member
      simpa using unbroken
  | cons c text ih =>
    by_cases ended : c = '\n'
    · subst ended
      rw [logLinesFrom_line_feed] at member
      obtain rfl | later := List.mem_cons.1 member
      · exact fun held => unbroken (List.mem_reverse.1 (mem_of_mem_dropLineEnd held))
      · exact ih List.not_mem_nil later
    · rw [logLinesFrom_cons ended] at member
      exact ih (List.not_mem_cons_of_ne_of_not_mem (Ne.symm ended) unbroken) member

/-- No line of a log holds a line feed. -/
theorem not_mem_of_mem_logLines {text : String} {line : List Char} (member : line ∈ logLines text) :
    '\n' ∉ line :=
  not_mem_of_mem_logLinesFrom List.not_mem_nil member

/-! ## Line ends of two characters -/

/-- A text with a carriage return put in front of every line feed. -/
def withCarriageReturns (text : String) : String :=
  String.ofList (text.toList.flatMap fun c => if c = '\n' then ['\r', '\n'] else [c])

theorem logLinesFrom_withCarriageReturns {line text : List Char} (lineFree : '\r' ∉ line)
    (textFree : '\r' ∉ text) :
    logLinesFrom line (text.flatMap fun c => if c = '\n' then ['\r', '\n'] else [c]) =
      logLinesFrom line text := by
  induction text generalizing line with
  | nil => rfl
  | cons c text ih =>
    obtain ⟨first, others⟩ := List.ne_and_not_mem_of_not_mem_cons textFree
    rw [List.flatMap_cons]
    by_cases ended : c = '\n'
    · subst ended
      have unended : line.reverse.getLast? ≠ some '\r' :=
        fun last => lineFree (List.mem_reverse.1 (List.mem_of_getLast? last))
      -- The carriage return that was put in is the one that ends the line and is dropped.
      rw [if_pos rfl, List.cons_append, List.cons_append, List.nil_append,
        logLinesFrom_cons (by decide), logLinesFrom_line_feed, logLinesFrom_line_feed,
        List.reverse_cons, dropLineEnd_concat, dropLineEnd_of_getLast? unended,
        ih List.not_mem_nil others]
    · rw [if_neg ended, List.singleton_append, logLinesFrom_cons ended, logLinesFrom_cons ended,
        ih (List.not_mem_cons_of_ne_of_not_mem first lineFree) others]

/-- A text without carriage returns has the same lines if one is put in front of every line feed. -/
theorem logLines_withCarriageReturns {text : String} (free : '\r' ∉ text.toList) :
    logLines (withCarriageReturns text) = logLines text := by
  rw [logLines, logLines, withCarriageReturns, String.toList_ofList,
    logLinesFrom_withCarriageReturns List.not_mem_nil free]

end CommitChecks

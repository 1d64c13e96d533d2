import CommitChecks.Proofs.Diagnostic.Linewise

/-!
# What becomes of every line

Under a pattern that can be used, every line of a log is accounted for: the pattern does not match it,
or it gives an annotation, or the log says why it does not. A pattern that cannot be used is reported
once, however many lines there are, and what validation says about the pattern tells beforehand which of
the two happens.
-/

namespace CommitChecks

/-- How grave a record is. -/
def Log.Record.level : Log.Record → Log.Level
  | event level _ _ => level
  | span level _ _ => level

@[simp] theorem Log.Record.level_event (level : Log.Level) (message : String)
    (fields : List (String × String)) : (Log.Record.event level message fields).level = level := rfl

namespace Extractor

/-- Whether the pattern matches a line but one of the required groups takes no part in the match. -/
def LacksGroup (pattern : Pattern) (line : List Char) : Prop :=
  ∃ captures, pattern.captures? line = some captures ∧
    ∃ group ∈ requiredGroups, captures.get? line group = none

/-- Whether the pattern matches a line with these texts in the required groups. -/
def HasGroups (pattern : Pattern) (line file number message : List Char) : Prop :=
  ∃ captures, pattern.captures? line = some captures ∧ captures.get? line "filename" = some file ∧
    captures.get? line "line" = some number ∧ captures.get? line "error" = some message

/-- Whether a text is the numeral of a line. -/
def NumbersLine (text : List Char) (line : UInt32) : Prop :=
  Decimal.Numeral text line.toNat ∧ 0 < line

/-- What lines of tasks come to, one after the other: the annotations that are found on them, and the
records that are written about them. -/
inductive Accounted (pattern : Pattern) :
    List (String × List Char) → List Diagnostic → List Log.Record → Prop
  | nil : Accounted pattern [] [] []
  | unmatched {task line lines found records} (fails : pattern.captures? line = none)
      (rest : Accounted pattern lines found records) :
      Accounted pattern ((task, line) :: lines) found records
  | incomplete {task line lines found records} (lacks : LacksGroup pattern line)
      (rest : Accounted pattern lines found records) :
      Accounted pattern ((task, line) :: lines) found
        (.event .debug "Failure pattern matched without all groups"
          [("task", task), ("line", String.ofList line)] :: records)
  | misnumbered {task line lines found records} {file number message : List Char}
      (has : HasGroups pattern line file number message)
      (numberless : ∀ n, ¬ NumbersLine number n) (rest : Accounted pattern lines found records) :
      Accounted pattern ((task, line) :: lines) found
        (.event .warn "Cannot convert line number to a positive integer"
          [("task", task), ("value", String.ofList number)] :: records)
  | annotated {task line lines found records} {file number message : List Char} {n : UInt32}
      (has : HasGroups pattern line file number message) (numbers : NumbersLine number n)
      (rest : Accounted pattern lines found records) :
      Accounted pattern ((task, line) :: lines)
        (⟨String.ofList (repositoryPath file), n, n, .failure, String.ofList message⟩ :: found) records

variable {pattern : Pattern} {line : List Char} {lines : List (String × List Char)}
  {found : List Diagnostic} {records : List Log.Record}

/-! ## One line -/

theorem exists_hasGroups_of_captures {captures : Pattern.Captures}
    (matched : pattern.captures? line = some captures) (complete : ¬ LacksGroup pattern line) :
    ∃ file number message, HasGroups pattern line file number message := by
  have present : ∀ group ∈ requiredGroups, ∃ text, captures.get? line group = some text := by
    intro group required
    apply Option.ne_none_iff_exists'.1
    intro absent
    exact complete ⟨captures, matched, group, required, absent⟩
  obtain ⟨file, filed⟩ := present "filename" (by simp [requiredGroups])
  obtain ⟨number, numbered⟩ := present "line" (by simp [requiredGroups])
  obtain ⟨message, told⟩ := present "error" (by simp [requiredGroups])
  exact ⟨file, number, message, captures, matched, filed, numbered, told⟩

theorem HasGroups.not_lacksGroup {file number message : List Char}
    (has : HasGroups pattern line file number message) : ¬ LacksGroup pattern line := by
  rintro ⟨captures, matched, group, required, absent⟩
  obtain ⟨same, matches', filed, numbered, told⟩ := has
  obtain rfl := Option.some.inj (matches'.symm.trans matched)
  simp only [requiredGroups, List.mem_cons, List.not_mem_nil, or_false] at required
  rcases required with rfl | rfl | rfl
  · exact nomatch filed.symm.trans absent
  · exact nomatch numbered.symm.trans absent
  · exact nomatch told.symm.trans absent

/-- A line is matched in one way only. -/
theorem HasGroups.unique {file number message file' number' message' : List Char}
    (first : HasGroups pattern line file number message)
    (second : HasGroups pattern line file' number' message') :
    file = file' ∧ number = number' ∧ message = message' := by
  obtain ⟨captures, matched, filed, numbered, told⟩ := first
  obtain ⟨others, matches', filed', numbered', told'⟩ := second
  obtain rfl := Option.some.inj (matched.symm.trans matches')
  refine ⟨?_, ?_, ?_⟩
  · exact Option.some.inj (filed.symm.trans filed')
  · exact Option.some.inj (numbered.symm.trans numbered')
  · exact Option.some.inj (told.symm.trans told')

/-- A numeral stands for one line. -/
theorem NumbersLine.unique {text : List Char} {n m : UInt32} (first : NumbersLine text n)
    (second : NumbersLine text m) : n = m := by
  have read : Decimal.readUInt32 text = some n := Decimal.readUInt32_eq_some_iff.2 first.1
  rw [Decimal.readUInt32_eq_some_iff.2 second.1] at read
  exact (Option.some.inj read).symm

theorem ofLine_of_lacksGroup (lacks : LacksGroup pattern line) : ofLine pattern line = .incomplete := by
  obtain ⟨captures, matched, group, required, absent⟩ := lacks
  unfold ofLine
  rw [matched]
  dsimp only
  split
  · rename_i file number message filed numbered told
    have has : HasGroups pattern line file number message :=
      ⟨captures, matched, filed, numbered, told⟩
    exact absurd ⟨captures, matched, group, required, absent⟩ has.not_lacksGroup
  · rfl

theorem ofLine_of_hasGroups {file number message : List Char}
    (has : HasGroups pattern line file number message) :
    ofLine pattern line = ofGroups file number message := by
  obtain ⟨captures, matched, filed, numbered, told⟩ := has
  simp only [ofLine, matched, filed, numbered, told]

theorem ofGroups_of_numbersLine {file number message : List Char} {n : UInt32}
    (numbers : NumbersLine number n) :
    ofGroups file number message =
      .diagnostic ⟨String.ofList (repositoryPath file), n, n, .failure, String.ofList message⟩ := by
  have positive : n ≠ 0 := by
    rintro rfl
    exact absurd numbers.2 (by decide)
  rw [ofGroups, Decimal.readUInt32_eq_some_iff.2 numbers.1]
  exact if_neg positive

theorem ofGroups_of_numberless {file number message : List Char}
    (numberless : ∀ n, ¬ NumbersLine number n) :
    ofGroups file number message = .badNumber (String.ofList number) := by
  unfold ofGroups
  split
  · rename_i n read
    have numeral : Decimal.Numeral number n.toNat := Decimal.readUInt32_eq_some_iff.1 read
    by_cases zero : n = 0
    · rw [if_pos zero]
    · exact absurd ⟨numeral, UInt32.pos_iff_ne_zero.2 zero⟩ (numberless n)
  · rfl

/-! ## All lines -/

/-- The annotations that lines give. -/
def annotationsOf (pattern : Pattern) (lines : List (String × List Char)) : List Diagnostic :=
  lines.filterMap fun line => (ofLine pattern line.2).diagnostic?

/-- The records that are written about lines. -/
def recordsOf (pattern : Pattern) (lines : List (String × List Char)) : List Log.Record :=
  lines.filterMap fun line => (ofLine pattern line.2).record? line.1 line.2

theorem ofLogs_eq_of_lines (pattern : Pattern) (logs : List TaskLog) :
    ofLogs pattern logs =
      ⟨annotationsOf pattern (linesOf logs), recordsOf pattern (linesOf logs)⟩ := by
  simp only [ofLogs, annotationsOf, recordsOf, List.filterMap_map, Function.comp_def]

theorem annotationsOf_cons (pattern : Pattern) (line : String × List Char)
    (lines : List (String × List Char)) :
    annotationsOf pattern (line :: lines) =
      (ofLine pattern line.2).diagnostic?.toList ++ annotationsOf pattern lines := by
  rw [annotationsOf, List.filterMap_cons]
  cases (ofLine pattern line.2).diagnostic? <;> rfl

theorem recordsOf_cons (pattern : Pattern) (line : String × List Char)
    (lines : List (String × List Char)) :
    recordsOf pattern (line :: lines) =
      ((ofLine pattern line.2).record? line.1 line.2).toList ++ recordsOf pattern lines := by
  rw [recordsOf, List.filterMap_cons]
  cases (ofLine pattern line.2).record? line.1 line.2 <;> rfl

/-- All lines are accounted for. -/
theorem accounted_of_lines (pattern : Pattern) (lines : List (String × List Char)) :
    Accounted pattern lines (annotationsOf pattern lines) (recordsOf pattern lines) := by
  induction lines with
  | nil => exact .nil
  | cons line lines ih =>
    obtain ⟨task, line⟩ := line
    rw [annotationsOf_cons, recordsOf_cons]
    cases matched : pattern.captures? line with
    | none =>
      have result : ofLine pattern line = .unmatched := by rw [ofLine, matched]
      rw [result]
      exact .unmatched matched ih
    | some captures =>
      by_cases lacks : LacksGroup pattern line
      · rw [ofLine_of_lacksGroup lacks]
        exact .incomplete lacks ih
      · obtain ⟨file, number, message, has⟩ := exists_hasGroups_of_captures matched lacks
        rw [ofLine_of_hasGroups has]
        by_cases numbers : ∃ n, NumbersLine number n
        · obtain ⟨n, numbers⟩ := numbers
          rw [ofGroups_of_numbersLine numbers]
          exact .annotated has numbers ih
        · have numberless : ∀ n, ¬ NumbersLine number n := not_exists.1 numbers
          rw [ofGroups_of_numberless numberless]
          exact .misnumbered has numberless ih

/-- Lines come to nothing else than what they give, so no line can be accounted for in two ways. -/
theorem Accounted.eq (accounted : Accounted pattern lines found records) :
    found = annotationsOf pattern lines ∧ records = recordsOf pattern lines := by
  induction accounted with
  | nil => exact ⟨rfl, rfl⟩
  | unmatched fails rest ih =>
    obtain ⟨rfl, rfl⟩ := ih
    rw [annotationsOf_cons, recordsOf_cons, ofLine, fails]
    exact ⟨rfl, rfl⟩
  | incomplete lacks rest ih =>
    obtain ⟨rfl, rfl⟩ := ih
    rw [annotationsOf_cons, recordsOf_cons, ofLine_of_lacksGroup lacks]
    exact ⟨rfl, rfl⟩
  | misnumbered has numberless rest ih =>
    obtain ⟨rfl, rfl⟩ := ih
    rw [annotationsOf_cons, recordsOf_cons, ofLine_of_hasGroups has,
      ofGroups_of_numberless numberless]
    exact ⟨rfl, rfl⟩
  | annotated has numbers rest ih =>
    obtain ⟨rfl, rfl⟩ := ih
    rw [annotationsOf_cons, recordsOf_cons, ofLine_of_hasGroups has, ofGroups_of_numbersLine numbers]
    exact ⟨rfl, rfl⟩

theorem accounted_iff :
    Accounted pattern lines found records ↔
      found = annotationsOf pattern lines ∧ records = recordsOf pattern lines := by
  constructor
  · exact Accounted.eq
  · rintro ⟨rfl, rfl⟩
    exact accounted_of_lines pattern lines

/-- No line is reported as an error. -/
theorem Accounted.level_ne_error (accounted : Accounted pattern lines found records) :
    ∀ record ∈ records, record.level ≠ .error := by
  induction accounted with
  | nil => simp
  | unmatched _ _ ih => exact ih
  | incomplete _ _ ih => simpa using ih
  | misnumbered _ _ _ ih => simpa using ih
  | annotated _ _ _ ih => exact ih

theorem HasGroups.isSome_captures? {file number message : List Char}
    (has : HasGroups pattern line file number message) : (pattern.captures? line).isSome = true := by
  obtain ⟨captures, matched, -⟩ := has
  rw [matched, Option.isSome_some]

/-- Every line that the pattern matches gives an annotation or a record, and no other line does. -/
theorem Accounted.count (accounted : Accounted pattern lines found records) :
    found.length + records.countP (·.level = .debug) + records.countP (·.level = .warn) =
      lines.countP fun line => (pattern.captures? line.2).isSome := by
  induction accounted with
  | nil => rfl
  | unmatched fails rest ih => simpa [List.countP_cons, fails] using ih
  | incomplete lacks rest ih =>
    obtain ⟨captures, matched, -⟩ := lacks
    simp [matched, ← ih]
    omega
  | misnumbered has numberless rest ih =>
    simp [has.isSome_captures?, ← ih]
    omega
  | annotated has numbers rest ih =>
    simp [has.isSome_captures?, ← ih]
    omega

/-! ## All patterns -/

theorem missingGroups_of_compile?_eq_none {options : Options}
    (broken : Pattern.compile? options.errorPattern = none) :
    options.missingGroups = .error (.config "invalid error detection pattern" none) := by
  rw [Options.missingGroups, broken]

theorem missingGroups_of_compile?_eq_some {options : Options}
    (compiled : Pattern.compile? options.errorPattern = some pattern) :
    options.missingGroups = .ok pattern.missingGroups := by
  rw [Options.missingGroups, compiled]

/-- A pattern that cannot be used is reported once, whatever the logs are. -/
theorem extractWith_of_unusable {options : Options} (unusable : options.missingGroups ≠ .ok []) :
    ∃ message fields, ∀ logs, extractWith options.errorPattern logs =
      ⟨[], [.event .error message fields]⟩ := by
  cases compiled : Pattern.compile? options.errorPattern with
  | none =>
    refine ⟨"Invalid regexp for filtering failure messages", [("pattern", options.errorPattern)], ?_⟩
    intro logs
    rw [extractWith, compiled]
  | some pattern =>
    have lacking : pattern.missingGroups ≠ [] := by
      intro complete
      apply unusable
      rw [missingGroups_of_compile?_eq_some compiled, complete]
    refine ⟨"Failure pattern lacks required capture groups, no annotations extracted",
      [("pattern", pattern.text), ("missing", Quoted.encodeList pattern.missingGroups)], ?_⟩
    intro logs
    rw [extractWith, compiled]
    exact if_neg lacking

/-- A pattern can be used if it compiles and has all required groups. -/
theorem exists_compile?_of_usable {options : Options} (usable : options.missingGroups = .ok []) :
    ∃ pattern, Pattern.compile? options.errorPattern = some pattern ∧ pattern.missingGroups = [] := by
  cases compiled : Pattern.compile? options.errorPattern with
  | none =>
    rw [missingGroups_of_compile?_eq_none compiled] at usable
    contradiction
  | some pattern =>
    rw [missingGroups_of_compile?_eq_some compiled] at usable
    exact ⟨pattern, rfl, Except.ok.inj usable⟩

/-- Validation fails exactly for a pattern that does not compile, and otherwise names the required groups
that the pattern lacks. If it fails or names one, nothing is extracted and one error is logged, the same
for all logs. If it does not, no error is logged, the annotations and records are exactly what the lines
come to one after the other, and each line that the pattern matches gives one annotation or one
record. -/
theorem every_line_is_accounted_for (options : Options) :
    ((∃ failure, options.missingGroups = .error failure) ↔
      Pattern.compile? options.errorPattern = none) ∧
    (∀ pattern, Pattern.compile? options.errorPattern = some pattern →
      options.missingGroups = .ok pattern.missingGroups ∧
        pattern.missingGroups =
          ["filename", "line", "error"].filter fun group => group ∉ pattern.groupNames) ∧
    (options.missingGroups ≠ .ok [] → ∃ message fields, ∀ logs,
      extractWith options.errorPattern logs = ⟨[], [.event .error message fields]⟩) ∧
    (options.missingGroups = .ok [] → ∃ pattern,
      Pattern.compile? options.errorPattern = some pattern ∧ ∀ logs,
        let extraction := extractWith options.errorPattern logs
        (∀ record ∈ extraction.records, record.level ≠ .error) ∧
        (∀ found records, Accounted pattern (linesOf logs) found records ↔
          found = extraction.annotations ∧ records = extraction.records) ∧
        extraction.annotations.length + extraction.records.countP (·.level = .debug) +
            extraction.records.countP (·.level = .warn) =
          (linesOf logs).countP fun line => (pattern.captures? line.2).isSome) := by
  refine ⟨?failing, ?missing, extractWith_of_unusable, ?usable⟩
  case failing =>
    constructor
    · rintro ⟨failure, fails⟩
      cases compiled : Pattern.compile? options.errorPattern with
      | none => rfl
      | some pattern =>
        rw [missingGroups_of_compile?_eq_some compiled] at fails
        contradiction
    · intro broken
      exact ⟨_, missingGroups_of_compile?_eq_none broken⟩
  case missing =>
    intro pattern compiled
    exact ⟨missingGroups_of_compile?_eq_some compiled, rfl⟩
  case usable =>
    intro usable
    obtain ⟨pattern, compiled, complete⟩ := exists_compile?_of_usable usable
    refine ⟨pattern, compiled, ?_⟩
    intro logs extraction
    have read : extraction =
        ⟨annotationsOf pattern (linesOf logs), recordsOf pattern (linesOf logs)⟩ := by
      rw [← ofLogs_eq_of_lines]
      exact extractWith_eq_ofLogs compiled complete logs
    have accounted := accounted_of_lines pattern (linesOf logs)
    rw [read]
    exact ⟨accounted.level_ne_error, fun found records => accounted_iff, accounted.count⟩

/-- A pattern whose line number may be absent, and a pattern that does not compile. -/
theorem every_line_is_accounted_for_with_optional_group :
    let options := Options.default.withErrorDetection
      "^(?P<filename>[^:]+):(?:(?P<line>[^:]+):)? (?P<error>.*)$"
    let broken := Options.default.withErrorDetection "(?P<filename>["
    let logs : List TaskLog := [⟨"build", "go: no line\na.go:5: boom\na.go:0: zero\nok\n"⟩,
      ⟨"test", "b.go:+7: late\nb.go:4294967296: large"⟩]
    options.missingGroups = .ok [] ∧ broken.missingGroups ≠ .ok [] ∧
      (extractWith options.errorPattern logs).annotations =
        [⟨"a.go", 5, 5, .failure, "boom"⟩, ⟨"b.go", 7, 7, .failure, "late"⟩] ∧
      (∃ pattern, Pattern.compile? options.errorPattern = some pattern ∧
        (linesOf logs).countP (fun line => (pattern.captures? line.2).isSome) = 5) ∧
      ∃ message fields, ∀ logs,
        extractWith broken.errorPattern logs = ⟨[], [.event .error message fields]⟩ := by
  intro options broken logs
  have fits : (Pattern.compile? options.errorPattern).any (·.missingGroups = []) = true := by
    decide +kernel
  obtain ⟨pattern, compiled, complete⟩ := (Option.any_eq_true _ _).1 fits
  have usable : options.missingGroups = .ok [] := by
    rw [missingGroups_of_compile?_eq_some compiled, of_decide_eq_true complete]
  have refused : Pattern.compile? broken.errorPattern = none := by decide +kernel
  have unusable : broken.missingGroups ≠ .ok [] := by
    rw [missingGroups_of_compile?_eq_none refused]
    exact nofun
  have found : (extractWith options.errorPattern logs).annotations =
      [⟨"a.go", 5, 5, .failure, "boom"⟩, ⟨"b.go", 7, 7, .failure, "late"⟩] := by decide +kernel
  have noted : (extractWith options.errorPattern logs).records.map Log.Record.level =
      [.debug, .warn, .warn] := by decide +kernel
  obtain ⟨-, -, -, accounted⟩ := every_line_is_accounted_for options
  obtain ⟨-, -, reported, -⟩ := every_line_is_accounted_for broken
  obtain ⟨pattern, compiled, accounted⟩ := accounted usable
  obtain ⟨-, -, count⟩ := accounted logs
  refine ⟨usable, unusable, found, ⟨pattern, compiled, ?_⟩, reported unusable⟩
  have levels (level : Log.Level) :
      (extractWith options.errorPattern logs).records.countP (·.level = level) =
        [Log.Level.debug, .warn, .warn].countP (· = level) := by
    rw [← noted, List.countP_map]
    rfl
  rw [← count, found, levels, levels]
  rfl

end Extractor
end CommitChecks

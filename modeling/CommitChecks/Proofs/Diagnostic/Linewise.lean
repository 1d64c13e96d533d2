import CommitChecks.Proofs.Diagnostic.Extraction
import CommitChecks.Proofs.Text.LogLines

/-!
# Extraction line by line

What is extracted from logs depends on their lines alone: each line gives at most one annotation, which
neither the name of its task nor the lines around it can change. So logs may be cut after any line feed,
and it makes no difference by which characters their lines are ended.
-/

namespace CommitChecks
namespace Extractor

variable {pattern : Pattern}

/-! ## Putting extractions together -/

instance : Append Extraction :=
  ⟨fun first second =>
    ⟨first.annotations ++ second.annotations, first.records ++ second.records⟩⟩

@[simp] theorem Extraction.annotations_append (first second : Extraction) :
    (first ++ second).annotations = first.annotations ++ second.annotations := rfl

@[simp] theorem Extraction.records_append (first second : Extraction) :
    (first ++ second).records = first.records ++ second.records := rfl

theorem linesOf_append (logs more : List TaskLog) :
    linesOf (logs ++ more) = linesOf logs ++ linesOf more :=
  List.flatMap_append

theorem linesOf_singleton (log : TaskLog) :
    linesOf [log] = (logLines log.text).map (log.taskName, ·) := by
  rw [linesOf, List.flatMap_cons, List.flatMap_nil, List.append_nil]

/-- Two parts of a log that is cut after a line feed have its lines. -/
theorem linesOf_append_line_feed (task before after : String) :
    linesOf [⟨task, before ++ "\n" ++ after⟩] =
      linesOf ([⟨task, before ++ "\n"⟩] ++ [⟨task, after⟩]) := by
  rw [linesOf_append, linesOf_singleton, linesOf_singleton, linesOf_singleton,
    logLines_append_line_feed, List.map_append]

theorem linesOf_withCarriageReturns (task : String) {text : String} (free : '\r' ∉ text.toList) :
    linesOf [⟨task, withCarriageReturns text⟩] = linesOf [⟨task, text⟩] := by
  rw [linesOf_singleton, linesOf_singleton, logLines_withCarriageReturns free]

/-- Logs with the same lines give the same. -/
theorem ofLogs_congr {logs others : List TaskLog} (same : linesOf logs = linesOf others) :
    ofLogs pattern logs = ofLogs pattern others := by
  rw [ofLogs, ofLogs, same]

/-- More logs only add to what is extracted. -/
theorem ofLogs_append (pattern : Pattern) (logs more : List TaskLog) :
    ofLogs pattern (logs ++ more) = ofLogs pattern logs ++ ofLogs pattern more := by
  simp only [ofLogs, linesOf_append, List.map_append, List.filterMap_append]
  rfl

/-- The annotations are those of the lines, whatever the tasks are called. -/
theorem annotations_ofLogs (pattern : Pattern) (logs : List TaskLog) :
    (ofLogs pattern logs).annotations =
      (logs.flatMap fun log => logLines log.text).filterMap fun line =>
        (ofLine pattern line).diagnostic? := by
  simp only [ofLogs, linesOf, List.filterMap_map, List.filterMap_flatMap, Function.comp_def]

theorem annotations_ofLogs_eq_flatMap (pattern : Pattern) (logs : List TaskLog) :
    (ofLogs pattern logs).annotations = logs.flatMap fun log => (ofLogs pattern [log]).annotations := by
  induction logs with
  | nil => rfl
  | cons log logs ih =>
    rw [← List.singleton_append, ofLogs_append, Extraction.annotations_append, ih,
      List.singleton_append, List.flatMap_cons]

/-- Under a pattern that has all groups, extraction is the reading of the lines. -/
theorem extractWith_eq_ofLogs {patternText : String} (compiled : Pattern.compile? patternText = some pattern)
    (complete : pattern.missingGroups = []) (logs : List TaskLog) :
    extractWith patternText logs = ofLogs pattern logs := by
  rw [extractWith, compiled]
  exact if_pos complete

/-- What is extracted from logs under a pattern with all groups is put together from its parts: from the
logs one by one, from the two parts of a log that is cut after a line feed, and from the lines one by
one. Two-character line ends change nothing in a log that has no other carriage returns, and each
annotation marks a failure on one line, counted from one. -/
theorem extraction_is_linewise {patternText : String} {pattern : Pattern}
    (compiled : Pattern.compile? patternText = some pattern) (complete : pattern.missingGroups = []) :
    let annotations := fun logs => (extractWith patternText logs).annotations
    (∀ logs, annotations logs = logs.flatMap fun log => annotations [log]) ∧
    (∀ task before after, annotations [⟨task, before ++ "\n" ++ after⟩] =
      annotations [⟨task, before ++ "\n"⟩] ++ annotations [⟨task, after⟩]) ∧
    (∀ logs, annotations logs = (logs.flatMap fun log => logLines log.text).filterMap fun line =>
      (ofLine pattern line).diagnostic?) ∧
    (∀ task text, '\r' ∉ text.toList →
      annotations [⟨task, withCarriageReturns text⟩] = annotations [⟨task, text⟩]) ∧
    ∀ logs, ∀ found ∈ annotations logs, 1 ≤ found.startLine.toNat ∧
      found.startLine = found.endLine ∧ found.endLine.toNat < UInt32.size ∧ found.level = .failure := by
  intro annotations
  have read (logs : List TaskLog) : annotations logs = (ofLogs pattern logs).annotations :=
    congrArg Extraction.annotations (extractWith_eq_ofLogs compiled complete logs)
  simp only [read]
  refine ⟨annotations_ofLogs_eq_flatMap pattern, ?cut, annotations_ofLogs pattern, ?ended, ?marked⟩
  case cut =>
    intro task before after
    rw [ofLogs_congr (linesOf_append_line_feed task before after), ofLogs_append,
      Extraction.annotations_append]
  case ended =>
    intro task text free
    rw [ofLogs_congr (linesOf_withCarriageReturns task free)]
  case marked =>
    intro logs found member
    have marks := ofLogs_marksLine member
    exact ⟨marks.fromOne, marks.oneLine.symm, found.endLine.toNat_lt, marks.failure⟩

/-- The logs of two tasks, the first of them with line ends of two characters. -/
theorem extraction_is_linewise_over_two_tasks :
    let patternText := "^(?P<filename>[^:]+):(?P<line>[^:]+): (?P<error>.*)$"
    let lint : TaskLog := ⟨"lint", withCarriageReturns "b.go:2: second\na.go:1: first\n"⟩
    let test : TaskLog := ⟨"test", "c.go:3: third"⟩
    (∃ pattern, Pattern.compile? patternText = some pattern ∧ pattern.missingGroups = []) ∧
      '\r' ∉ "b.go:2: second\na.go:1: first\n".toList ∧
      (extractWith patternText [lint, test]).annotations =
        [⟨"b.go", 2, 2, .failure, "second"⟩, ⟨"a.go", 1, 1, .failure, "first"⟩,
          ⟨"c.go", 3, 3, .failure, "third"⟩] := by
  intro patternText lint test
  have compiles : (Pattern.compile? patternText).isSome = true := by decide +kernel
  obtain ⟨pattern, compiled⟩ := Option.isSome_iff_exists.1 compiles
  have complete : pattern.missingGroups = [] := by
    have all : (Pattern.compile? patternText).all (·.missingGroups = []) = true := by decide +kernel
    simpa [compiled] using all
  have free : '\r' ∉ "b.go:2: second\na.go:1: first\n".toList := by decide +kernel
  obtain ⟨oneByOne, -, -, ended, -⟩ := extraction_is_linewise compiled complete
  refine ⟨⟨pattern, compiled, complete⟩, free, ?_⟩
  calc (extractWith patternText [lint, test]).annotations
    _ = (extractWith patternText [lint]).annotations ++
        ((extractWith patternText [test]).annotations ++ []) := oneByOne [lint, test]
    _ = (extractWith patternText [⟨"lint", "b.go:2: second\na.go:1: first\n"⟩]).annotations ++
        ((extractWith patternText [test]).annotations ++ []) :=
      congrArg (· ++ _) (ended "lint" _ free)
    _ = _ := by decide +kernel

end Extractor
end CommitChecks

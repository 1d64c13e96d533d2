import CommitChecks.Diagnostic.Extractor

/-!
# What is extracted from logs

Every annotation comes from a line of a log whose groups were all matched. So it marks one line of its
file, counted from one, as a failure, whatever the pattern.
-/

namespace CommitChecks

/-- Whether an annotation marks a failure on one line of a file. -/
structure Diagnostic.MarksLine (diagnostic : Diagnostic) : Prop where
  failure : diagnostic.level = .failure
  oneLine : diagnostic.endLine = diagnostic.startLine
  fromOne : 0 < diagnostic.startLine.toNat

namespace Extractor

variable {found : Diagnostic}

theorem ofGroups_marksLine {file number message : List Char}
    (gives : ofGroups file number message = .diagnostic found) : found.MarksLine := by
  unfold ofGroups at gives
  split at gives
  · split at gives
    · contradiction
    · rename_i line _ positive
      cases gives
      exact ⟨rfl, rfl, Nat.pos_of_ne_zero fun zero => positive (UInt32.toNat_inj.1 zero)⟩
  · contradiction

theorem ofLine_marksLine {pattern : Pattern} {line : List Char}
    (gives : ofLine pattern line = .diagnostic found) : found.MarksLine := by
  unfold ofLine at gives
  split at gives
  · contradiction
  · split at gives
    · exact ofGroups_marksLine gives
    · contradiction

theorem ofLogs_marksLine {pattern : Pattern} {logs : List TaskLog}
    (member : found ∈ (ofLogs pattern logs).annotations) : found.MarksLine := by
  obtain ⟨⟨task, line, result⟩, among, gives⟩ := List.mem_filterMap.1 member
  obtain ⟨source, -, same⟩ := List.mem_map.1 among
  cases same
  refine @ofLine_marksLine _ pattern source.2 ?_
  cases result : ofLine pattern source.2 with
  | diagnostic other => rw [result] at gives; exact congrArg _ (Option.some.inj gives)
  | _ => rw [result] at gives; exact nomatch gives

/-- Whatever the pattern, an annotation marks a failure on one line. -/
theorem extractWith_marksLine {patternText : String} {logs : List TaskLog}
    (member : found ∈ (extractWith patternText logs).annotations) : found.MarksLine := by
  unfold extractWith at member
  split at member
  · unfold extract at member
    split at member
    · exact ofLogs_marksLine member
    · exact nomatch member
  · exact nomatch member

/-- Without logs there is nothing to extract. -/
theorem extractWith_nil (patternText : String) : (extractWith patternText []).annotations = [] := by
  unfold extractWith
  split
  · unfold extract
    split <;> rfl
  · rfl

end Extractor
end CommitChecks

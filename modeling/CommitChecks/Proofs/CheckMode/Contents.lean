import CommitChecks.Proofs.CheckMode.Calls
import CommitChecks.Proofs.Diagnostic.Extraction

/-!
# What a check is updated with

A report that gets to ask for logs or to update its check ends with doing so. The new contents of the
check are made of the request and of what is extracted from the logs that the report was given; logs
that it did not ask for, or that could not be read, add nothing.
-/

namespace CommitChecks

/-- The logs that the call gave. -/
def Turn.logsGiven : CallTurn → List TaskLog
  | ⟨.logs _ _, .ok logs⟩ => logs
  | _ => []

theorem Turn.logsGiven_eq_nil {turn : CallTurn} (other : turn.question.kind ≠ .logs) :
    turn.logsGiven = [] := by
  obtain ⟨question, answer⟩ := turn
  cases question with
  | logs => exact absurd rfl other
  | _ => rfl

namespace CheckMode

/-- The annotations for the logs that the calls gave. -/
def diagnosticsOf (options : Options) (turns : List CallTurn) : List Diagnostic :=
  (Extractor.extractWith options.errorPattern (turns.flatMap Turn.logsGiven)).annotations

variable {now : Timestamp} {event : Event} {options : Options} {request : StatusRequest}
variable {slot : SkipSlot} {id : UInt64} {turns : List CallTurn} {ended : Report CheckHandle}

theorem runWithLogs?_eq_some {run : Run} :
    runWithLogs? options request = some run ↔
      options.errorDetection = true ∧ request.outcome = .failure ∧ request.run = some run := by
  unfold runWithLogs?
  split
  · rename_i searched
    simp [searched]
  · rename_i unsearched
    simpa [← and_assoc] using fun detects fails => absurd ⟨detects, fails⟩ unsearched

theorem flatMap_logsGiven_eq_nil (others : ∀ turn ∈ turns, turn.question.kind ≠ .logs) :
    turns.flatMap Turn.logsGiven = [] :=
  List.flatMap_eq_nil_iff.2 fun turn member => Turn.logsGiven_eq_nil (others turn member)

theorem diagnosticsOf_eq_nil (others : ∀ turn ∈ turns, turn.question.kind ≠ .logs) :
    diagnosticsOf options turns = [] := by
  rw [diagnosticsOf, flatMap_logsGiven_eq_nil others, Extractor.extractWith_nil]

/-- Calls for no logs do not add annotations. -/
theorem diagnosticsOf_append {before after : List CallTurn}
    (others : ∀ turn ∈ before, turn.question.kind ≠ .logs) :
    diagnosticsOf options (before ++ after) = diagnosticsOf options after := by
  rw [diagnosticsOf, List.flatMap_append, flatMap_logsGiven_eq_nil others, List.nil_append,
    diagnosticsOf]

/-! ## How a report closes -/

theorem Stored.exists_closing {result : Except Failure CheckHandle}
    (stored : Stored now event options request id turns result) {turn : CallTurn}
    (member : turn ∈ turns) (late : turn.question.kind ≠ .patch) :
    ∃ before after, turns = before ++ after ∧
      (before.map fun turn => turn.question.kind).Sublist [.patch] ∧
      Updated now event options request id after result := by
  cases stored with
  | runless _ updated => exact ⟨[], turns, rfl, List.nil_sublist _, updated⟩
  | unpatched =>
    obtain rfl := List.mem_singleton.1 member
    exact absurd rfl late
  | patched _ updated => exact ⟨[_], _, rfl, .refl _, updated⟩

/-- A report that asks for logs or updates its check ends with that. -/
theorem Reported.exists_closing (reported : Reported now event options request slot turns ended)
    {turn : CallTurn} (member : turn ∈ turns)
    (late : turn.question.kind ∉ [Call.Kind.list, .create, .patch]) :
    ∃ target before after, turns = before ++ after ∧
      (before.map fun turn => turn.question.kind).Sublist [.list, .create, .patch] ∧
      Updated now event options request target after ended.result := by
  cases reported with
  | unreadable => exact nomatch member
  | labelled _ updated => exact ⟨_, [], turns, rfl, List.nil_sublist _, updated⟩
  | unlisted => exact absurd member (Turn.not_mem_of_kinds (.cons_cons _ (List.nil_sublist _)) late)
  | uncreated =>
    exact absurd member
      (Turn.not_mem_of_kinds (.cons_cons _ (.cons_cons _ (List.nil_sublist _))) late)
  | found _ found stored =>
    have unfound : turn ∉ _ := Turn.not_mem_of_kinds found.kinds (by simp_all)
    obtain ⟨before, after, rfl, patches, updated⟩ := stored.exists_closing
      ((List.mem_append.1 member).resolve_left unfound) (by simp_all)
    refine ⟨_, _ ++ before, after, (List.append_assoc _ _ _).symm, ?_, updated⟩
    rw [List.map_append]
    exact found.kinds.append patches

/-! ## What it writes -/

theorem diagnosticsOf_logs {run : Run} {limit : UInt64} (logs : Except Failure (List TaskLog))
    {update : CallTurn} (closing : update.question.kind ≠ .logs) :
    diagnosticsOf options [⟨.logs run limit, logs⟩, update] = annotationsOf options logs := by
  have given : diagnosticsOf options [⟨.logs run limit, logs⟩, update] =
      (Extractor.extractWith options.errorPattern
        (Turn.logsGiven ⟨.logs run limit, logs⟩)).annotations := by
    simp only [diagnosticsOf, List.flatMap_cons, List.flatMap_nil, Turn.logsGiven_eq_nil closing,
      List.append_nil]
  rw [given]
  cases logs with
  | ok logs => rfl
  | error failure => exact Extractor.extractWith_nil _

theorem Updated.of_update {result : Except Failure CheckHandle}
    (updated : Updated now event options request id turns result) {turn : CallTurn}
    (member : turn ∈ turns) {about : Event} {target : UInt64} {contents : CheckUpdate}
    (asks : turn.question = .update about target contents) :
    contents = update now options request (diagnosticsOf options turns) := by
  cases updated with
  | plain =>
    obtain rfl := List.mem_singleton.1 member
    cases asks
    rw [diagnosticsOf_eq_nil (by simp [Call.kind])]
  | searched _ logs =>
    rw [diagnosticsOf_logs logs (by simp [Call.kind])]
    obtain rfl | rfl := by simpa using member
    · cases asks
    · cases asks
      rfl

/-- An update is made of the request and of the annotations for the logs that the report was given. -/
theorem Reported.of_update (reported : Reported now event options request slot turns ended)
    {turn : CallTurn} (member : turn ∈ turns) {about : Event} {target : UInt64}
    {contents : CheckUpdate} (asks : turn.question = .update about target contents) :
    contents = update now options request (diagnosticsOf options turns) := by
  have kind : turn.question.kind = .update := by rw [asks]; rfl
  obtain ⟨id, before, after, rfl, early, updated⟩ :=
    reported.exists_closing member (by simp [kind])
  have others : ∀ other ∈ before, other.question.kind ≠ .logs :=
    fun other among same => Turn.not_mem_of_kinds early (by simp [same]) among
  have here : turn ∈ after := (List.mem_append.1 member).resolve_left
    (Turn.not_mem_of_kinds early (by simp [kind]))
  rw [diagnosticsOf_append others]
  exact updated.of_update here asks

theorem Updated.asks_logs_iff {result : Except Failure CheckHandle}
    (updated : Updated now event options request id turns result) {run : Run} {limit : UInt64} :
    (∃ turn ∈ turns, turn.question = .logs run limit) ↔
      runWithLogs? options request = some run ∧ limit = options.maxLogLines := by
  cases updated with
  | plain unread => simp [unread]
  | searched read => simp [read, eq_comm]

/-- A report that updates its check has asked for the logs of its run exactly if failures are searched
for annotations and the run has failed. -/
theorem Reported.asks_logs_iff (reported : Reported now event options request slot turns ended)
    (updates : ∃ turn ∈ turns, turn.question.kind = .update) {run : Run} {limit : UInt64} :
    (∃ turn ∈ turns, turn.question = .logs run limit) ↔
      (options.errorDetection = true ∧ request.outcome = .failure ∧ request.run = some run) ∧
        limit = options.maxLogLines := by
  obtain ⟨turn, member, kind⟩ := updates
  obtain ⟨id, before, after, rfl, early, updated⟩ :=
    reported.exists_closing member (by simp [kind])
  -- Only the closing calls are for logs, and these are known exactly.
  have unasked : ¬ ∃ other ∈ before, other.question = .logs run limit :=
    fun ⟨other, among, same⟩ => Turn.not_mem_of_kinds early (by simp [same, Call.kind]) among
  rw [← runWithLogs?_eq_some, ← updated.asks_logs_iff]
  simp only [List.mem_append, or_and_right, exists_or, unasked, false_or]

theorem Updated.annotations_of_failed_logs {result : Except Failure CheckHandle}
    (updated : Updated now event options request id turns result)
    (failed : ∃ turn ∈ turns, turn.question.kind = .logs ∧ turn.failure? ≠ none) :
    ∀ turn ∈ turns, ∀ annotations, turn.question.annotations? = some annotations →
      annotations = [] := by
  cases updated with
  | plain => simp [Call.kind] at failed
  | searched _ logs =>
    cases logs with
    | ok logs => simp [Call.kind, Turn.failure?] at failed
    | error failure => simp [Call.annotations?, update, annotationsOf]

/-- Logs that cannot be read leave the check without annotations. -/
theorem Reported.annotations_of_failed_logs
    (reported : Reported now event options request slot turns ended)
    (failed : ∃ turn ∈ turns, turn.question.kind = .logs ∧ turn.failure? ≠ none) :
    ∀ turn ∈ turns, ∀ annotations, turn.question.annotations? = some annotations →
      annotations = [] := by
  obtain ⟨asked, member, kind, fails⟩ := failed
  obtain ⟨id, before, after, rfl, early, updated⟩ :=
    reported.exists_closing member (by simp [kind])
  have late : ∀ {turn : CallTurn}, turn.question.kind ∉ [Call.Kind.list, .create, .patch] →
      turn ∈ before ++ after → turn ∈ after :=
    fun other among => (List.mem_append.1 among).resolve_left (Turn.not_mem_of_kinds early other)
  intro turn among annotations given
  have updates : turn.question.kind = .update := Call.kind_of_annotations? given
  exact updated.annotations_of_failed_logs ⟨asked, late (by simp [kind]) member, kind, fails⟩ turn
    (late (by simp [updates]) among) annotations given

end CheckMode
end CommitChecks

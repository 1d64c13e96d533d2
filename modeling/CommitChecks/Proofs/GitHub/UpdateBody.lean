import CommitChecks.Proofs.CheckMode.Contents
import CommitChecks.Proofs.GitHub.Register
import CommitChecks.Proofs.ReportCourses
import CommitChecks.Rehearsal
import Mathlib.Data.List.Forall2

/-!
# Bodies of updates

`UpdateHolds` says what stands in the body of the request that updates the check of a run: which keys it
has and under which conditions, and what each of them holds, given the request, the options and the
annotations that were extracted. Every body that a client sends for an update of a report is of this
kind.
-/

namespace CommitChecks

/-- Whether the run of a request was cancelled or stopped in any way. -/
def StatusRequest.Stopped (request : StatusRequest) : Prop :=
  ∃ run state, request.run = some run ∧ run.cancelState = some state

/-- Whether a request says how its run ended. -/
def StatusRequest.Concluded (request : StatusRequest) : Prop :=
  request.Stopped ∨ (request.phase = .completed ∧ request.outcome ≠ .pending)

theorem Outcome.eq_pending {outcome : Outcome} (named : outcome.name = "pending") :
    outcome = .pending := by
  cases outcome <;> simp_all [Outcome.name]

namespace CheckMode

variable {request : StatusRequest}

theorem stopped_iff : request.run.any Run.isCancelledOrStopped = true ↔ request.Stopped := by
  cases run : request.run <;>
    simp [StatusRequest.Stopped, run, Run.isCancelledOrStopped, Option.isSome_iff_exists]

theorem conclusion_of_stopped (stopped : request.Stopped) : conclusion request = some .cancelled :=
  if_pos (stopped_iff.2 stopped)

theorem conclusion_of_not_stopped (goes : ¬ request.Stopped) :
    conclusion request =
      if request.phase = .completed ∧ request.outcome ≠ .pending then some request.outcome else none :=
  if_neg (mt stopped_iff.1 goes)

/-- A run that was not stopped ends as it turned out. -/
theorem outcome_of_conclusion (goes : ¬ request.Stopped) {outcome : Outcome}
    (ended : conclusion request = some outcome) : outcome = request.outcome := by
  rw [conclusion_of_not_stopped goes] at ended
  split at ended
  · exact (Option.some.inj ended).symm
  · contradiction

theorem conclusion_ne_none_iff : conclusion request ≠ none ↔ request.Concluded := by
  by_cases stopped : request.Stopped
  · simp [conclusion_of_stopped stopped, StatusRequest.Concluded, stopped]
  · simp [conclusion_of_not_stopped stopped, StatusRequest.Concluded, stopped]

/-- No run ends pending. -/
theorem conclusion_ne_pending : conclusion request ≠ some .pending := by
  by_cases stopped : request.Stopped
  · simp [conclusion_of_stopped stopped]
  · rw [conclusion_of_not_stopped stopped]
    split
    · rename_i ended
      exact fun same => ended.2 (Option.some.inj same)
    · nofun

end CheckMode

namespace GitHub

/-! ## What bodies hold -/

/-- Whether a document is a record whose keys are among these, each written once and in this order. -/
def HasKeys (document : Value) (keys : List String) : Prop :=
  ∃ entries, document = .record entries ∧ (entries.map Prod.fst).Sublist keys

/-- Whether an item of a body holds an annotation: a failure on one line, counted from one. -/
structure AnnotationHolds (diagnostic : Diagnostic) (item : Value) : Prop where
  keys : HasKeys item ["path", "start_line", "end_line", "annotation_level", "message"]
  path : item.get? "path" = some (.str diagnostic.path)
  line : ∃ line : Nat, 1 ≤ line ∧ line < UInt32.size ∧
    item.get? "start_line" = some (.int line) ∧ item.get? "end_line" = some (.int line) ∧
      line = diagnostic.startLine.toNat
  level : item.get? "annotation_level" = some (.str "failure")
  message : item.get? "message" = some (.str diagnostic.message)

/-- Whether the output in a body holds a title, a summary, a text unless it is empty, and the first fifty
of the annotations unless there are none. -/
structure OutputHolds (title summary text : String) (annotations : List Diagnostic)
    (output : Value) : Prop where
  keys : HasKeys output ["title", "summary", "text", "annotations"]
  title : output.get? "title" = some (.str title)
  summary : output.get? "summary" = some (.str summary)
  text : output.get? "text" = if text = "" then none else some (.str text)
  annotations : if annotations = [] then output.get? "annotations" = none
    else ∃ items, output.get? "annotations" = some (.list items) ∧
      List.Forall₂ AnnotationHolds (annotations.take 50) items

/-- Whether the body of an update holds what a request, under these options and at that time, and the
annotations make of it. -/
structure UpdateHolds (now : Timestamp) (options : Options) (request : StatusRequest)
    (annotations : List Diagnostic) (body : Value) : Prop where
  keys : HasKeys body
    ["name", "status", "output", "conclusion", "completed_at", "details_url", "external_id"]
  name : body.get? "name" = some (.str (Conclusion.checkName options request))
  status : body.get? "status" = some (.str request.phase.name)
  output : ∃ output, body.get? "output" = some output ∧
    OutputHolds (Conclusion.apply options request).title (Conclusion.apply options request).summary
      request.text annotations output
  detailsUrl : body.get? "details_url" =
    if request.detailsUrl = "" then none else some (.str request.detailsUrl)
  externalId : body.get? "external_id" =
    if request.runName = "" then none else some (.str request.runName)
  concluded : body.get? "conclusion" ≠ none ↔ body.get? "completed_at" ≠ none
  completed : body.get? "completed_at" ≠ none ↔ request.Concluded
  time : ∀ held, body.get? "completed_at" = some held → held = .str now.text
  stopped : request.Stopped → body.get? "conclusion" = some (.str "cancelled")
  unstopped : ¬ request.Stopped → ∀ held, body.get? "conclusion" = some held →
    held = .str request.outcome.name
  decided : body.get? "conclusion" ≠ some (.str "pending")

/-! ## What is written -/

theorem keys_textEntry (name text : String) :
    ((textEntry name text).map Prod.fst).Sublist [name] := by
  unfold textEntry
  split
  · exact List.nil_sublist _
  · exact .refl _

theorem keys_optionalEntry (name : String) (text : Option String) :
    ((optionalEntry name text).map Prod.fst).Sublist [name] := by
  cases text with
  | none => exact List.nil_sublist _
  | some text => exact .refl _

theorem keys_annotationsEntry (annotations : List Diagnostic) :
    ((annotationsEntry annotations).map Prod.fst).Sublist ["annotations"] := by
  unfold annotationsEntry
  split
  · exact List.nil_sublist _
  · exact .refl _

theorem lookup_textEntry_self (name text : String) :
    (textEntry name text).lookup name = if text = "" then none else some (.str text) := by
  unfold textEntry
  split
  · rfl
  · rw [lookup_cons_eq_ite, if_pos rfl]

theorem lookup_annotationsEntry {key : String} (differ : key ≠ "annotations")
    (annotations : List Diagnostic) : (annotationsEntry annotations).lookup key = none := by
  unfold annotationsEntry
  split
  · rfl
  · rw [lookup_cons_eq_ite, if_neg differ, List.lookup_nil]

theorem lookup_annotationsEntry_self (annotations : List Diagnostic) :
    (annotationsEntry annotations).lookup "annotations" = if annotations = [] then none
      else some (.list ((annotations.take maxAnnotations).map diagnosticBody)) := by
  unfold annotationsEntry
  split
  · rfl
  · rw [lookup_cons_eq_ite, if_pos rfl]

theorem diagnosticBody_holds {diagnostic : Diagnostic} (marks : diagnostic.MarksLine) :
    AnnotationHolds diagnostic (diagnosticBody diagnostic) where
  keys := ⟨_, rfl, .refl _⟩
  path := rfl
  line := by
    refine ⟨diagnostic.startLine.toNat, marks.fromOne, diagnostic.startLine.toNat_lt, rfl, ?_, rfl⟩
    rw [← marks.oneLine]
    rfl
  level := by
    change some (Value.str diagnostic.level.name) = _
    rw [marks.failure]
    rfl
  message := rfl

theorem outputBody_holds {output : CheckOutput}
    (marks : ∀ diagnostic ∈ output.annotations, diagnostic.MarksLine) :
    OutputHolds output.title output.summary output.text output.annotations (outputBody output) where
  keys := by
    refine ⟨_, rfl, ?_⟩
    rw [List.map_append, List.map_append]
    exact ((List.Sublist.refl ["title", "summary"]).append (keys_textEntry _ _)).append
      (keys_annotationsEntry _)
  title := rfl
  summary := rfl
  text := by
    change List.lookup _ _ = _
    rw [List.lookup_append, List.lookup_append, lookup_textEntry_self,
      lookup_annotationsEntry (by decide), Option.or_none]
    rfl
  annotations := by
    have held : (outputBody output).get? "annotations" =
        (annotationsEntry output.annotations).lookup "annotations" := by
      change List.lookup _ _ = _
      rw [List.lookup_append, List.lookup_append, lookup_textEntry (by decide)]
      rfl
    rw [held, lookup_annotationsEntry_self]
    split
    · rfl
    · refine ⟨_, rfl, ?_⟩
      rw [List.forall₂_map_right_iff]
      exact List.forall₂_same.2 fun diagnostic member =>
        diagnosticBody_holds (marks _ (List.mem_of_mem_take member))

/-- Under a key that need not be there, the body of an update holds what the entry for it holds. -/
theorem get?_updateBody {key : String} (optional : key ∉ ["name", "status", "output"])
    (contents : CheckUpdate) :
    (updateBody contents).get? key =
      ((((optionalEntry "conclusion" (contents.conclusion.map Outcome.name)).lookup key).or
        ((optionalEntry "completed_at" (contents.completedAt.map Timestamp.text)).lookup key)).or
        ((optionalEntry "details_url" contents.detailsUrl).lookup key)).or
        ((optionalEntry "external_id" contents.externalId).lookup key) := by
  change List.lookup _ _ = _
  simp only [List.mem_cons, List.not_mem_nil, or_false, not_or] at optional
  obtain ⟨name, status, output⟩ := optional
  simp only [List.lookup_append, lookup_cons_eq_ite, if_neg name, if_neg status, if_neg output,
    List.lookup_nil, Option.none_or]

section
variable (contents : CheckUpdate)

theorem get?_updateBody_conclusion :
    (updateBody contents).get? "conclusion" =
      contents.conclusion.map fun outcome => .str outcome.name := by
  rw [get?_updateBody (by decide), lookup_optionalEntry_self, Option.map_map]
  simp [lookup_optionalEntry, Function.comp_def]

theorem get?_updateBody_completedAt :
    (updateBody contents).get? "completed_at" =
      contents.completedAt.map fun time => .str time.text := by
  rw [get?_updateBody (by decide), lookup_optionalEntry_self, Option.map_map]
  simp [lookup_optionalEntry, Function.comp_def]

theorem get?_updateBody_detailsUrl :
    (updateBody contents).get? "details_url" = contents.detailsUrl.map .str := by
  rw [get?_updateBody (by decide), lookup_optionalEntry_self]
  simp [lookup_optionalEntry]

theorem get?_updateBody_externalId :
    (updateBody contents).get? "external_id" = contents.externalId.map .str := by
  rw [get?_updateBody (by decide), lookup_optionalEntry_self]
  simp [lookup_optionalEntry]

end

theorem nonEmpty?_map_str (text : String) :
    (CheckMode.nonEmpty? text).map Value.str = if text = "" then none else some (.str text) := by
  unfold CheckMode.nonEmpty?
  split <;> rfl

/-- The body of an update that is made of a request and of annotations holds what they make of it. -/
theorem updateBody_holds (now : Timestamp) (options : Options) (request : StatusRequest)
    {annotations : List Diagnostic} (marks : ∀ diagnostic ∈ annotations, diagnostic.MarksLine) :
    UpdateHolds now options request annotations
      (updateBody (CheckMode.update now options (Conclusion.apply options request) annotations)) := by
  let contents := CheckMode.update now options (Conclusion.apply options request) annotations
  -- Both entries come from the one conclusion, so they are there together or not at all.
  have conclusion : (updateBody contents).get? "conclusion" =
      (CheckMode.conclusion request).map fun outcome => .str outcome.name :=
    get?_updateBody_conclusion contents
  have completed : (updateBody contents).get? "completed_at" =
      (CheckMode.conclusion request).map fun _ => .str now.text :=
    (get?_updateBody_completedAt contents).trans (Option.map_map _ _ _)
  exact {
    keys := by
      refine ⟨_, rfl, ?_⟩
      simp only [List.map_append]
      exact ((((List.Sublist.refl ["name", "status", "output"]).append (keys_optionalEntry _ _)).append
        (keys_optionalEntry _ _)).append (keys_optionalEntry _ _)).append (keys_optionalEntry _ _)
    name := rfl
    status := rfl
    output := ⟨outputBody contents.output, rfl, @outputBody_holds contents.output marks⟩
    detailsUrl := (get?_updateBody_detailsUrl contents).trans (nonEmpty?_map_str _)
    externalId := (get?_updateBody_externalId contents).trans (nonEmpty?_map_str _)
    concluded := by simp [contents, conclusion, completed]
    completed := by
      rw [completed, ← CheckMode.conclusion_ne_none_iff]
      simp
    time := fun held there => by
      rw [completed] at there
      obtain ⟨-, -, same⟩ := Option.map_eq_some_iff.1 there
      exact same.symm
    stopped := fun stopped => by
      rw [conclusion, CheckMode.conclusion_of_stopped stopped]
      rfl
    unstopped := fun goes held there => by
      rw [conclusion] at there
      obtain ⟨outcome, ended, same⟩ := Option.map_eq_some_iff.1 there
      rw [CheckMode.outcome_of_conclusion goes ended] at same
      exact same.symm
    decided := fun pending => by
      rw [conclusion] at pending
      obtain ⟨outcome, ended, same⟩ := Option.map_eq_some_iff.1 pending
      rw [Outcome.eq_pending (Value.str.inj same)] at ended
      exact CheckMode.conclusion_ne_pending ended }

/-! ## What is sent -/

variable {World Service : Type}

/-- Whatever calls a report makes and however they are replied to: every request that a client sends
for an update of the report has a body that holds what the report was asked for, and the annotations
that were extracted from the logs which the report was given. -/
theorem update_bodies_are_well_formed (answerer : Answerer Call Call.Reply World) (world : World)
    (client : Client) (service : Answerer Request Delivery Service) (state : Service)
    (reconciler : Reconciler) (now : Timestamp) (event : Event) (options : Options)
    (request : StatusRequest) :
    let turns := (reconciler.report now event options request).turns answerer world
    let logs := turns.flatMap Turn.logsGiven
    let annotations := (Extractor.extractWith options.errorPattern logs).annotations
    ∀ turn ∈ turns, ∀ about id contents, turn.question = .update about id contents →
      let sent := (client.update about id contents).turns service state
      (∀ exchange ∈ sent, exchange.question.method = .patch ∧
        ∃ body, exchange.question.body = some body ∧
          UpdateHolds now options request annotations body) ∧
      (sent = [] ↔ Address.read? s!"{Client.repositoryRoute about}/check-runs/{id.toNat}" = none) ∧
      ∀ run limit, (∃ asked ∈ turns, asked.question = .logs run limit) ↔
        (options.errorDetection = true ∧ request.outcome = .failure ∧ request.run = some run) ∧
          limit = options.maxLogLines := by
  intro turns logs annotations turn member about id contents asks sent
  have kind : turn.question.kind = .update := by rw [asks]; rfl
  have filed : Reconciler.Filed now event options request reconciler turns _ :=
    Reconciler.report_admits_iff.1 (Dialogue.admits_run answerer _ world)
  obtain ⟨inner, -, reported⟩ := filed.reported.resolve_right fun flat =>
    absurd (flat turn member) (by simp [kind])
  have made : contents = CheckMode.update now options (Conclusion.apply options request) annotations :=
    reported.of_update member asks
  have wrote := Client.wrote_of_update rfl
    (Dialogue.admits_run service (client.update about id contents) state)
  refine ⟨fun exchange among => ?_, wrote.eq_nil_iff,
    fun run limit => reported.asks_logs_iff ⟨turn, member, kind⟩⟩
  obtain ⟨address, -, same⟩ := wrote.question exchange among
  refine ⟨congrArg Request.method same, _, congrArg Request.body same, ?_⟩
  rw [made]
  exact updateBody_holds now options request fun _ found => Extractor.extractWith_marksLine found

/-- A failed run that was cancelled: its check is updated as cancelled, and with the line of the log that
holds an error. -/
theorem update_bodies_are_well_formed_of_cancelled_run :
    let event : Event := ⟨"acme", "widgets", "0123abc", .push, none, 7⟩
    let run : Run :=
      { name := "ci-1", namespaceName := "jobs", cancelState := some .cancelledRunFinally }
    let request : StatusRequest :=
      { runName := "ci-1", phase := .completed, outcome := .failure, text := "1 test failed",
        run := some run }
    let options : Options := { Options.default with errorDetection := true }
    let world : Rehearsal := { logs := [⟨"build", "building\nsrc/lib.rs:12: oops\n"⟩] }
    let found : List Diagnostic := [⟨"src/lib.rs", 12, 12, .failure, "oops"⟩]
    let turns := (Reconciler.report { hasHosting := true } .epoch event options request).turns
      Rehearsal.answerer world
    let contents := CheckMode.update .epoch options (Conclusion.apply options request) found
    let client : Client := ⟨"token", Client.defaultAddress⟩
    (∃ turn ∈ turns, turn.question = .update event 1000 contents) ∧
      ∃ exchange ∈ (client.update event 1000 contents).turns unreachable (),
        ∃ body, exchange.question.body = some body ∧ UpdateHolds .epoch options request found body ∧
          body.get? "conclusion" = some (.str "cancelled") := by
  intro event run request options world found turns contents client
  have updates : ∃ turn ∈ turns, turn.question = .update event 1000 contents := by decide +kernel
  have extracted : (Extractor.extractWith options.errorPattern
      (turns.flatMap Turn.logsGiven)).annotations = found := by decide +kernel
  refine ⟨updates, ?_⟩
  obtain ⟨turn, member, asks⟩ := updates
  obtain ⟨holds, sends, -⟩ := update_bodies_are_well_formed Rehearsal.answerer world client unreachable
    () { hasHosting := true } .epoch event options request turn member event 1000 contents asks
  have sent : (client.update event 1000 contents).turns unreachable () ≠ [] := by
    rw [Ne, sends]
    decide +kernel
  obtain ⟨exchange, among⟩ := List.exists_mem_of_ne_nil _ sent
  obtain ⟨-, body, carried, held⟩ := holds exchange among
  rw [show (Extractor.extractWith _ _).annotations = found from extracted] at held
  exact ⟨exchange, among, body, carried, held, held.stopped ⟨run, _, rfl, rfl⟩⟩

end GitHub
end CommitChecks

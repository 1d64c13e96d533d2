import CommitChecks.Proofs.Session.RunStore
import CommitChecks.Proofs.StatusMode.Courses
import CommitChecks.Rehearsal

/-!
# Reports through commit statuses

A report of an event without an app installation submits one commit status and, once that has
succeeded, at most one comment. It leaves the skip slot and the stored runs alone, and takes nothing
from the request but what the status and the comment show: neither the run object, nor the name of the
run, nor the options that say how diagnostics are found.
-/

namespace CommitChecks

/-- What two requests, each with its options, have in common if a commit status shows no difference
between them. -/
structure SameStatus (options others : Options) (request other : StatusRequest) : Prop where
  applicationName : options.applicationName = others.applicationName
  logicalName : request.logicalName = other.logicalName
  phase : request.phase = other.phase
  outcome : request.outcome = other.outcome
  detailsUrl : request.detailsUrl = other.detailsUrl
  title : request.title = other.title
  summary : request.summary = other.summary
  text : request.text = other.text

namespace SameStatus

variable {options others : Options} {request other : StatusRequest}

theorem shownName? (same : SameStatus options others request other) :
    request.shownName? = other.shownName? := by
  rw [StatusRequest.shownName?, StatusRequest.shownName?, same.logicalName]

theorem ofRequest (same : SameStatus options others request other) :
    Conclusion.ofRequest options request = Conclusion.ofRequest others other := by
  simp only [Conclusion.ofRequest, same.outcome, same.phase, same.title, same.summary,
    same.applicationName, same.shownName?]

/-- Putting the final words in place makes no difference either. -/
theorem apply (same : SameStatus options others request other) :
    SameStatus options others (Conclusion.apply options request) (Conclusion.apply others other) :=
  { same with
    title := congrArg Conclusion.title same.ofRequest
    summary := congrArg Conclusion.summary same.ofRequest }

theorem status (same : SameStatus options others request other) :
    StatusMode.status options request = StatusMode.status others other := by
  simp only [StatusMode.status, Conclusion.checkName, same.phase, same.outcome, same.detailsUrl,
    same.title, same.applicationName, same.shownName?]

theorem comment (same : SameStatus options others request other) (event : Event) :
    StatusMode.comment event request = StatusMode.comment event other := by
  have due : StatusMode.needsComment event request = StatusMode.needsComment event other := by
    rw [StatusMode.needsComment, StatusMode.needsComment, same.phase, same.text]
  have body : StatusMode.commentBody request = StatusMode.commentBody other := by
    rw [StatusMode.commentBody, StatusMode.commentBody, same.summary, same.text]
  rw [StatusMode.comment, StatusMode.comment, due, body]

/-- What a status does not show makes no difference to a report through it. -/
theorem report (same : SameStatus options others request other) (event : Event) :
    StatusMode.report event options request = StatusMode.report event others other := by
  rw [StatusMode.report, StatusMode.report, same.status, same.comment event]
  -- The two sides are equal reply by reply only: each of them matches on replies to its own call.
  refine congrArg (Dialogue.ask _) (funext fun reply => ?_)
  cases reply <;> rfl

end SameStatus

namespace StatusMode.Posted

variable {event : Event} {options : Options} {request : StatusRequest}
variable {turns : List CallTurn} {result : Except Failure Unit}

/-- The status comes first, and the comment after it only if it is due and can be made. -/
theorem calls (posted : Posted event options request turns result) :
    ∃ reply comments, turns = ⟨.status event (status options request), reply⟩ :: comments ∧
      (comments ≠ [] ↔
        reply = .ok () ∧ CommentDue event request ∧ event.pullRequestNumber ≠ none) ∧
      (∀ turn ∈ comments, comments = [turn] ∧ ∃ number answer,
        event.pullRequestNumber = some number ∧
          turn = ⟨.comment event number (commentBody request), answer⟩) ∧
      (∀ failure, result = .error failure ↔
        reply = .error failure ∨
        (reply = .ok () ∧ CommentDue event request ∧ event.pullRequestNumber = none ∧
          failure = .missingPullRequestNumber event) ∨
        ∃ turn ∈ comments, turn.failure? = some failure) := by
  cases posted with
  | refused failure => exact ⟨_, [], rfl, by simp, by simp, by simp⟩
  | plain undue =>
    have none_due : ¬ CommentDue event request := fun due => by
      rw [needsComment_iff.2 due] at undue
      contradiction
    exact ⟨_, [], rfl, by simp [none_due], by simp, by simp [none_due]⟩
  | numberless due unknown =>
    have wanted : CommentDue event request := needsComment_iff.1 due
    exact ⟨_, [], rfl, by simp [unknown], by simp, by simp [wanted, unknown, eq_comm]⟩
  | commented due known =>
    have wanted : CommentDue event request := needsComment_iff.1 due
    refine ⟨_, _, rfl, by simp [wanted, known], ?_, fun failure => ?_⟩
    · simp only [List.mem_singleton, forall_eq]
      exact ⟨trivial, _, _, known, rfl⟩
    · cases result <;> simp [known, Turn.failure?]

end StatusMode.Posted

/-- Calls for statuses and comments do not touch the stored runs. -/
theorem RunStore.afterTurns_of_flat (store : RunStore) {turns : List CallTurn}
    (flat : ∀ turn ∈ turns, turn.question.kind = .status ∨ turn.question.kind = .comment) :
    store.afterTurns turns = store := by
  induction turns with
  | nil => rfl
  | cons turn rest ih =>
    obtain ⟨here, later⟩ := List.forall_mem_cons.1 flat
    have kept : store.afterTurn turn = store := by
      unfold afterTurn
      split
      · rename_i run patch asks
        simp [asks, Call.kind] at here
      · rfl
    rw [afterTurns, List.foldl_cons, kept]
    exact ih later

namespace Reconciler

section
variable {result : Except Failure Unit}

private theorem map_eq_error_iff {failure : Failure} :
    (result.map fun _ => (none : Option CheckHandle)) = .error failure ↔ result = .error failure := by
  cases result <;> simp [Except.map]

private theorem eq_none_of_map_eq_ok {used : Option CheckHandle}
    (gives : (result.map fun _ => none) = .ok used) : used = none := by
  cases result <;> simp_all [Except.map]

end

namespace Filed

variable {reconciler : Reconciler} {now : Timestamp} {event : Event} {options : Options}
variable {request : StatusRequest} {turns : List CallTurn} {ended : Report (Option CheckHandle)}

theorem posted (filed : Filed now event options request reconciler turns ended)
    (present : reconciler.hasHosting = true) (uninstalled : event.hasAppInstallation = false) :
    ∃ result, StatusMode.Posted event options (Conclusion.apply options request) turns result ∧
      ended = ⟨result.map fun _ => none, reconciler.slot⟩ := by
  cases filed with
  | unhosted absent => rw [present] at absent; contradiction
  | checked _ installed => rw [uninstalled] at installed; contradiction
  | flat _ _ admits => exact ⟨_, StatusMode.report_admits_iff.1 admits, rfl⟩

/-- Without an app installation, a report has to do with statuses and comments only. -/
theorem of_uninstalled (filed : Filed now event options request reconciler turns ended)
    (uninstalled : event.hasAppInstallation = false) :
    (∀ turn ∈ turns, turn.question.kind = .status ∨ turn.question.kind = .comment) ∧
      (∀ used, ended.result = .ok used → used = none) ∧ ended.slot = reconciler.slot := by
  cases filed with
  | unhosted => simp
  | checked _ installed => rw [uninstalled] at installed; contradiction
  | flat _ _ admits =>
    exact ⟨StatusMode.kind_of_admits admits, fun used => eq_none_of_map_eq_ok, rfl⟩

end Filed

section
variable {World : Type} (answerer : Answerer Call Call.Reply World) (world : World)
variable (reconciler : Reconciler) (now : Timestamp) {event : Event}
variable (options : Options) (request : StatusRequest)

theorem report_of_unhosted (absent : reconciler.hasHosting = false) :
    reconciler.report now event options request = .done ⟨.error .noHosting, reconciler.slot⟩ := by
  simp [report, absent]

/-- Without an app installation, a report is one through a commit status. -/
theorem report_of_uninstalled (hosted : reconciler.hasHosting = true)
    (uninstalled : event.installationId ≤ 0) :
    reconciler.report now event options request =
      .note (reportSpan event (Conclusion.apply options request))
        ((StatusMode.report event options (Conclusion.apply options request)).map
          fun result => ⟨result.map fun _ => none, reconciler.slot⟩) := by
  have absent : event.hasAppInstallation = false :=
    decide_eq_false (Int64.not_lt.2 uninstalled)
  simp only [report, hosted, if_true, submit, ReportMode.ofEvent, absent, Bool.false_eq_true,
    if_false]

theorem turns_of_uninstalled (hosted : reconciler.hasHosting = true)
    (uninstalled : event.installationId ≤ 0) :
    (reconciler.report now event options request).turns answerer world =
      (StatusMode.report event options (Conclusion.apply options request)).turns answerer world := by
  rw [report_of_uninstalled reconciler now options request hosted uninstalled]
  exact Dialogue.turns_map answerer _ _ world

theorem run_of_uninstalled (hosted : reconciler.hasHosting = true)
    (uninstalled : event.installationId ≤ 0) :
    let course := (reconciler.report now event options request).run answerer world
    let flat := (StatusMode.report event options (Conclusion.apply options request)).run answerer world
    course.result = ⟨flat.result.map fun _ => none, reconciler.slot⟩ ∧ course.state = flat.state := by
  intro course flat
  simp only [course, flat, report_of_uninstalled reconciler now options request hosted uninstalled,
    Dialogue.run, Course.cons, Dialogue.run_map, and_self]

/-- Requests with the same status are reported alike, whatever the skip slot holds. -/
theorem report_of_sameStatus (peer : Reconciler) (later : Timestamp) {options others : Options}
    {request other : StatusRequest} (uninstalled : event.installationId ≤ 0)
    (sameHosting : peer.hasHosting = reconciler.hasHosting)
    (same : SameStatus options others request other) :
    let dialogue := reconciler.report now event options request
    let again := peer.report later event others other
    again.turns answerer world = dialogue.turns answerer world ∧
      (again.run answerer world).result.result = (dialogue.run answerer world).result.result ∧
        (again.run answerer world).state = (dialogue.run answerer world).state := by
  intro dialogue again
  cases hosted : reconciler.hasHosting with
  | false =>
    rw [hosted] at sameHosting
    simp only [dialogue, again, report_of_unhosted _ _ _ _ hosted,
      report_of_unhosted _ _ _ _ sameHosting, Dialogue.turns, Dialogue.run, and_self]
  | true =>
    rw [hosted] at sameHosting
    obtain ⟨result, state⟩ := run_of_uninstalled answerer world reconciler now options request
      hosted uninstalled
    obtain ⟨otherResult, otherState⟩ := run_of_uninstalled answerer world peer later others other
      sameHosting uninstalled
    refine ⟨?_, ?_, ?_⟩
    · simp only [dialogue, again, turns_of_uninstalled _ _ _ _ _ _ hosted uninstalled,
        turns_of_uninstalled _ _ _ _ _ _ sameHosting uninstalled, same.apply.report]
    · simp only [dialogue, again, result, otherResult, same.apply.report]
    · simp only [dialogue, again, state, otherState, same.apply.report]

end

/-- A report of an event without an app installation submits one status, whatever the reply, and
comments once after it if the status was taken, a text is due on a pull request, and its number is
known. It fails exactly as the first of these failed, or for want of the number, and gives no check. It
leaves the skip slot and the stored runs alone, and goes the same way for any request and options
with the same status. -/
theorem report_through_commit_status {World : Type} (answerer : Answerer Call Call.Reply World)
    (world : World) (reconciler : Reconciler) (now : Timestamp) {event : Event} (options : Options)
    (request : StatusRequest) (uninstalled : event.installationId ≤ 0) :
    let worded := Conclusion.apply options request
    let status : CommitStatus :=
      { state := .of request.phase request.outcome
        targetUrl := request.detailsUrl
        description := worded.title
        context := Conclusion.checkName options request }
    let dialogue := reconciler.report now event options request
    let turns := dialogue.turns answerer world
    let course := dialogue.run answerer world
    (reconciler.hasHosting = false → turns = [] ∧ course.result.result = .error .noHosting) ∧
    (reconciler.hasHosting = true →
      ∃ reply comments, turns = ⟨.status event status, reply⟩ :: comments ∧
        (comments ≠ [] ↔
          reply = .ok () ∧ StatusMode.CommentDue event request ∧ event.pullRequestNumber ≠ none) ∧
        (∀ turn ∈ comments, comments = [turn] ∧ ∃ number answer,
          event.pullRequestNumber = some number ∧
            turn = ⟨.comment event number (worded.summary ++ "<br>" ++ request.text), answer⟩) ∧
        (∀ failure, course.result.result = .error failure ↔
          reply = .error failure ∨
          (reply = .ok () ∧ StatusMode.CommentDue event request ∧ event.pullRequestNumber = none ∧
            failure = .invalidState s!"pull request event on {event.text} has no number") ∨
          ∃ turn ∈ comments, turn.failure? = some failure)) ∧
    (∀ turn ∈ turns, turn.question.kind = .status ∨ turn.question.kind = .comment) ∧
    (∀ used, course.result.result = .ok used → used = none) ∧
    course.result.slot = reconciler.slot ∧
    (∀ store : RunStore, store.afterTurns turns = store) ∧
    ∀ (peer : Reconciler) (later : Timestamp) (others : Options) (other : StatusRequest),
      peer.hasHosting = reconciler.hasHosting → SameStatus options others request other →
        let again := peer.report later event others other
        again.turns answerer world = turns ∧
          (again.run answerer world).result.result = course.result.result ∧
            (again.run answerer world).state = course.state := by
  intro worded status dialogue turns course
  have absent : event.hasAppInstallation = false := decide_eq_false (Int64.not_lt.2 uninstalled)
  have filed : Filed now event options request reconciler turns course.result :=
    report_admits_iff.1 (Dialogue.admits_run answerer dialogue world)
  obtain ⟨flat, unused, kept⟩ := filed.of_uninstalled absent
  refine ⟨fun unhosted => (filed.of_unhosted unhosted).imp_right (congrArg Report.result),
    fun hosted => ?_, flat, unused, kept, fun store => store.afterTurns_of_flat flat,
    fun peer later others other sameHosting same =>
      report_of_sameStatus answerer world reconciler now peer later uninstalled sameHosting same⟩
  obtain ⟨result, posted, ended⟩ := filed.posted hosted absent
  obtain ⟨reply, comments, split, commented, comment, failed⟩ := posted.calls
  refine ⟨reply, comments, split, commented, comment, fun failure => ?_⟩
  refine Iff.trans ?_ (failed failure)
  rw [ended]
  exact map_eq_error_iff

/-- A failed run of a pull request whose comment is refused: the status has been submitted by then. A
taken skip slot, another name of the run and a label on it change nothing. -/
theorem report_through_commit_status_of_pull_request :
    let event : Event := ⟨"acme", "widgets", "0123abc", .pullRequest, some 12, 0⟩
    let request : StatusRequest :=
      { runName := "ci-1", logicalName := some "ci", phase := .completed, outcome := .failure,
        detailsUrl := "https://ci.example", text := "2 tests failed" }
    let labelled : Run :=
      { name := "ci-2", namespaceName := "jobs", labels := Labels.empty.insert Run.checkIdKey "41" }
    let other : StatusRequest := { request with runName := "ci-2", run := some labelled }
    let options := Options.default.withApplicationName "CI"
    let others : Options := { options with errorDetection := true }
    let world : Rehearsal := { failing := [.comment] }
    let dialogue := (Reconciler.mk true .empty).report .epoch event options request
    let turns := dialogue.turns Rehearsal.answerer world
    let ended := (dialogue.run Rehearsal.answerer world).result
    event.installationId ≤ 0 ∧ SameStatus options others request other ∧
      turns.map Turn.question =
        [.status event ⟨.failure, "https://ci.example", "Failed", "CI / ci"⟩,
          .comment event 12 "CI/ci has failed.<br>2 tests failed"] ∧
      ended.result = .error (.submission "Create pull request comment" "410 Gone") ∧
      ((Reconciler.mk true ⟨some 7⟩).report .epoch event others other).turns Rehearsal.answerer world =
        turns := by
  intro event request labelled other options others world dialogue turns ended
  have uninstalled : event.installationId ≤ 0 := by decide
  have same : SameStatus options others request other := ⟨rfl, rfl, rfl, rfl, rfl, rfl, rfl, rfl⟩
  obtain ⟨-, hosted, -, -, -, -, alike⟩ := report_through_commit_status Rehearsal.answerer world
    ⟨true, .empty⟩ .epoch options request uninstalled
  obtain ⟨reply, comments, split, -, -, fails⟩ := hosted rfl
  have refused : ∃ turn ∈ turns.tail,
      turn.failure? = some (.submission "Create pull request comment" "410 Gone") := by
    decide +kernel
  rw [show turns = _ from split, List.tail_cons] at refused
  exact ⟨uninstalled, same, by decide +kernel, (fails _).2 (.inr (.inr refused)),
    (alike ⟨true, ⟨some 7⟩⟩ .epoch others other rfl same).1⟩

end Reconciler
end CommitChecks

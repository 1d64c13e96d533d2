import CommitChecks.Proofs.CheckMode.Choice
import CommitChecks.Proofs.CheckMode.Contents
import CommitChecks.Proofs.ReportCourses
import CommitChecks.Rehearsal

/-!
# Recognising the checks of skipped runs

The check of a skipped run is known by its title and by a phrase in its summary, and both are words that
a report puts there. Where the words for an outcome are fixed, the title is that of a skipped run for
skipped runs alone, and their summary ends with the phrase whatever names stand in front of it. So a
later run that looks for a check to take over is never offered one whose run went on or turned out some
other way.
-/

namespace CommitChecks
namespace Conclusion

variable {options : Options} {request : StatusRequest} {check : ExistingCheck}

/-! ## Fixed words -/

/-- Only runs that are pending or cancelled keep the words of their requests. -/
theorem of_eq_none_iff {outcome : Outcome} {phase : Phase} :
    of outcome phase = none ↔ phase ≠ .inProgress ∧ outcome ∈ [.pending, .cancelled] := by
  cases outcome <;> cases phase <;> simp [of]

/-- The title of a skipped run is fixed for skipped runs alone. -/
theorem title_eq_skippedTitle_iff {outcome : Outcome} {phase : Phase} {words : Conclusion}
    (fixed : of outcome phase = some words) :
    words.title = skippedTitle ↔ outcome = .skipped ∧ phase ≠ .inProgress := by
  cases outcome <;> cases phase <;> simp [of] at fixed <;> simp [← fixed, skippedTitle]

theorem of_skipped {phase : Phase} (elsewhere : phase ≠ .inProgress) :
    of .skipped phase = some ⟨skippedTitle, "is skipping this commit."⟩ :=
  if_neg elsewhere

/-- The names in front of a summary leave it as it is. -/
theorem suffix_composeSummary (applicationName : String) (logicalName : Option String)
    (summary : String) :
    summary.toList <:+ (composeSummary applicationName logicalName summary).toList := by
  cases logicalName with
  | none => exact ⟨applicationName.toList ++ [' '], by simp [composeSummary, toString]⟩
  | some name => exact ⟨applicationName.toList ++ '/' :: name.toList ++ [' '], by simp [composeSummary, toString]⟩

/-! ## Checks that show them -/

/-- Whether a check shows the words. -/
def ShownBy (words : Conclusion) (check : ExistingCheck) : Prop :=
  check.title = some words.title ∧ check.summary = some words.summary

theorem ShownBy.isSkipped_iff {words : Conclusion} (shown : words.ShownBy check) :
    check.isSkipped = true ↔
      words.title = skippedTitle ∧ skippedPhrase.toList <:+: words.summary.toList := by
  obtain ⟨title, summary⟩ := shown
  rw [ExistingCheck.isSkipped_iff, title, summary]
  simp [skippedTitle, skippedPhrase]

/-- A check with fixed words is that of a skipped run exactly if its run was skipped. -/
theorem isSkipped_iff_of_fixed {words : Conclusion} (fixed : of request.outcome request.phase = some words)
    (shown : (ofRequest options request).ShownBy check) :
    check.isSkipped = true ↔ request.outcome = .skipped ∧ request.phase ≠ .inProgress := by
  have same : (ofRequest options request) =
      ⟨words.title, composeSummary options.applicationName request.shownName? words.summary⟩ := by
    rw [ofRequest, fixed, Option.getD_some]
  rw [shown.isSkipped_iff, same]
  constructor
  · rintro ⟨title, -⟩
    exact (title_eq_skippedTitle_iff fixed).1 title
  · rintro ⟨skipped, elsewhere⟩
    rw [skipped, of_skipped elsewhere] at fixed
    obtain rfl := Option.some.inj fixed
    have phrase : skippedPhrase.toList <+: "is skipping this commit.".toList := by decide +kernel
    exact ⟨rfl, phrase.isInfix.trans (suffix_composeSummary _ _ _).isInfix⟩

/-- A check that kept the words of a request is that of a skipped run exactly if the request says so. -/
theorem isSkipped_iff_of_unfixed (unfixed : of request.outcome request.phase = none)
    (shown : (ofRequest options request).ShownBy check) :
    check.isSkipped = true ↔ request.title = skippedTitle ∧ skippedPhrase.toList <:+:
      (composeSummary options.applicationName request.shownName? request.summary).toList := by
  have same : (ofRequest options request) = ⟨request.title,
      composeSummary options.applicationName request.shownName? request.summary⟩ := by
    rw [ofRequest, unfixed, Option.getD_none]
  rw [shown.isSkipped_iff, same]

end Conclusion

namespace CheckMode

/-- While the skip slot is free, a search takes a check over as that of a skipped run exactly if it is
one, even if the check carries the name of the run. -/
theorem choose_singleton_eq_skipped_iff (runName : String) (check : ExistingCheck) :
    choose runName .empty [check] = (some (check.id, .skipped), ⟨some check.id⟩) ↔
      check.isSkipped = true := by
  cases skipped : check.isSkipped with
  | true => simp [choose, skipped, SkipSlot.claim_won_iff, SkipSlot.claim_snd]
  | false =>
    simp only [choose, skipped, Bool.false_eq_true, false_and, if_false, iff_false]
    split <;> simp

/-- A report says of its run what the check then shows: its search aside, an update writes the words of
the request. -/
theorem Reported.words_of_update {now : Timestamp} {event : Event} {options : Options}
    {request : StatusRequest} {slot : SkipSlot} {turns : List CallTurn} {ended : Report CheckHandle}
    (reported : Reported now event options request slot turns ended) {turn : CallTurn}
    (member : turn ∈ turns) {about : Event} {id : UInt64} {contents : CheckUpdate}
    (asks : turn.question = .update about id contents) :
    contents.output.title = request.title ∧ contents.output.summary = request.summary := by
  rw [reported.of_update member asks]
  exact ⟨rfl, rfl⟩

end CheckMode

namespace Reconciler

/-- The words that a request is reported with make its check that of a skipped run, where they are fixed,
exactly if the run was skipped and is not going on, and otherwise exactly if the request itself says so.
All updates that a report makes carry these words, so a later run with a free skip slot takes the check
over from a skipped run, and from no run that goes on, succeeded, failed or ended in some unknown way. -/
theorem updates_mark_skipped_runs (options : Options) (request : StatusRequest) :
    let words := Conclusion.apply options request
    let running := request.phase = .inProgress
    let known := running ∨ request.outcome ∈ [.success, .failure, .skipped, .neutral]
    let composed := Conclusion.composeSummary options.applicationName request.shownName? request.summary
    (∀ check : ExistingCheck, check.title = some words.title → check.summary = some words.summary →
      (known → (check.isSkipped = true ↔ request.outcome = .skipped ∧ ¬ running)) ∧
      (¬ running → request.outcome ∈ [.pending, .cancelled] →
        (check.isSkipped = true ↔ request.title = "Skipped" ∧
          "is skipping this commit".toList <:+: composed.toList))) ∧
    ∀ {World : Type} (answerer : Answerer Call Call.Reply World) (world : World)
      (reconciler : Reconciler) (now : Timestamp) (event : Event),
      ∀ turn ∈ (reconciler.report now event options request).turns answerer world,
        ∀ about id contents, turn.question = .update about id contents →
          contents.output.title = words.title ∧ contents.output.summary = words.summary ∧
          ∀ check : ExistingCheck, check.title = some contents.output.title →
            check.summary = some contents.output.summary → known → ∀ runName,
              (CheckMode.choose runName .empty [check] =
                  (some (check.id, .skipped), ⟨some check.id⟩) ↔
                request.outcome = .skipped ∧ ¬ running) := by
  intro words running known composed
  have marked (check : ExistingCheck) (title : check.title = some words.title)
      (summary : check.summary = some words.summary) (said : known) :
      check.isSkipped = true ↔ request.outcome = .skipped ∧ ¬ running := by
    have fixed : Conclusion.of request.outcome request.phase ≠ none := by
      rw [Ne, Conclusion.of_eq_none_iff]
      rintro ⟨elsewhere, kept⟩
      have other := said.resolve_left elsewhere
      simp only [List.mem_cons, List.not_mem_nil, or_false] at kept other
      obtain kept | kept := kept <;> simp [kept] at other
    obtain ⟨texts, fixed⟩ := Option.ne_none_iff_exists'.1 fixed
    exact Conclusion.isSkipped_iff_of_fixed fixed ⟨title, summary⟩
  refine ⟨fun check title summary => ⟨marked check title summary, fun elsewhere kept => ?_⟩, ?_⟩
  · exact Conclusion.isSkipped_iff_of_unfixed (Conclusion.of_eq_none_iff.2 ⟨elsewhere, kept⟩)
      ⟨title, summary⟩
  · intro World answerer world reconciler now event turn member about id contents asks
    have kind : turn.question.kind = .update := by rw [asks]; rfl
    have filed : Filed now event options request reconciler _ _ :=
      report_admits_iff.1 (Dialogue.admits_run answerer _ world)
    obtain ⟨inner, -, reported⟩ := filed.reported.resolve_right fun flat =>
      absurd (flat turn member) (by simp [kind])
    obtain ⟨title, summary⟩ := reported.words_of_update member asks
    refine ⟨title, summary, fun check shownTitle shownSummary said runName => ?_⟩
    rw [CheckMode.choose_singleton_eq_skipped_iff]
    exact marked check (title ▸ shownTitle) (summary ▸ shownSummary) said

/-- A run that was skipped and then cancelled while it was queued: another run takes its check over. -/
theorem updates_mark_skipped_runs_of_cancelled_run :
    let event : Event := ⟨"acme", "widgets", "0123abc", .push, none, 7⟩
    let run : Run :=
      { name := "ci-1", namespaceName := "jobs", cancelState := some .cancelledRunFinally }
    let request : StatusRequest :=
      { runName := "ci-1", logicalName := some "lint", phase := .queued, outcome := .skipped,
        run := some run }
    let contents := CheckMode.update .epoch Options.default
      (Conclusion.apply Options.default request) []
    let check : ExistingCheck :=
      { id := 1000, externalId := some "ci-1", title := some contents.output.title,
        summary := some contents.output.summary }
    (∃ turn ∈ (Reconciler.report { hasHosting := true } .epoch event Options.default request).turns
        Rehearsal.answerer {}, turn.question = .update event 1000 contents) ∧
      CheckMode.choose "ci-2" .empty [check] = (some (1000, .skipped), ⟨some 1000⟩) := by
  intro event run request contents check
  have updates : ∃ turn ∈ (Reconciler.report { hasHosting := true } .epoch event Options.default
      request).turns Rehearsal.answerer {}, turn.question = .update event 1000 contents := by
    decide +kernel
  refine ⟨updates, ?_⟩
  obtain ⟨turn, member, asks⟩ := updates
  obtain ⟨-, submitted⟩ := updates_mark_skipped_runs Options.default request
  obtain ⟨-, -, takes⟩ := submitted Rehearsal.answerer {} { hasHosting := true } .epoch event turn
    member event 1000 contents asks
  exact (takes check rfl rfl (.inr (by simp [request])) "ci-2").2 ⟨rfl, nofun⟩

end Reconciler
end CommitChecks

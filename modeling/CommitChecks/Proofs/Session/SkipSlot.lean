import CommitChecks.Proofs.Session
import CommitChecks.Rehearsal

/-!
# The skip slot over a session

The slot of a session is filled at most once. A report that fills it has just listed the check it puts
there, which belongs to a skipped run, and stays with that check whatever fails afterwards. The other
way round, a report that carries a check which it neither found on its run, nor created, nor listed
under the name of its run, must be the one that filled the slot.
-/

namespace CommitChecks

namespace Reconciler.Filed

open CheckMode

variable {now : Timestamp} {event : Event} {options : Options} {request : StatusRequest}
  {reconciler : Reconciler} {turns : List CallTurn} {ended : Report (Option CheckHandle)} {id : UInt64}

/-- What a report that fills the skip slot has listed, and that it stays with it. -/
theorem of_fills (filed : Filed now event options request reconciler turns ended)
    (free : reconciler.slot = .empty) (filled : ended.slot = ⟨some id⟩) :
    (∃ (checks : List ExistingCheck) (check : ExistingCheck),
        (⟨.list event options.applicationId, .ok checks⟩ : CallTurn) ∈ turns ∧
          check ∈ checks ∧ check.id = id ∧ check.isSkipped = true) ∧
      CarriesOnly id turns ∧
      ∀ closed, ended.result = .ok (some closed) → closed.id = id := by
  have changed : ended.slot ≠ reconciler.slot := by
    rw [free, filled]
    exact nofun
  obtain ⟨-, inner, reported, rfl⟩ := filed.reported_of_slot_ne changed
  obtain ⟨-, -, checks, check, rest, rfl, present, skipped, taken, stored⟩ :=
    reported.of_slot_ne changed
  have same : check.id = id := Option.some.inj (SkipSlot.mk.inj (taken.symm.trans filled))
  refine ⟨⟨checks, check, List.mem_cons_self, present, same, skipped⟩, ?_, ?_⟩
  · rw [← same]
    exact List.forall_mem_cons.2 ⟨by simp [Call.kind], stored.carriesOnly⟩
  · intro closed ended
    cases succeeded : inner.result with
    | error failure => simp [succeeded, Except.map] at ended
    | ok handed =>
      obtain ⟨rfl, -⟩ := stored.ok_iff.1 succeeded
      simp only [succeeded, Except.map, Except.ok.injEq, Option.some.injEq] at ended
      rw [← ended]
      exact same

/-- Reports through commit statuses, and reports of runs with a label, leave the skip slot alone. -/
theorem slot_eq_of_settled (filed : Filed now event options request reconciler turns ended)
    (settled : event.hasAppInstallation = false ∨ request.run.bind Run.checkIdText ≠ none) :
    ended.slot = reconciler.slot := by
  by_contra changed
  obtain ⟨installed, inner, reported, rfl⟩ := filed.reported_of_slot_ne changed
  obtain ⟨-, unlabelled, -⟩ := reported.of_slot_ne changed
  rcases settled with uninstalled | labelled
  · rw [installed] at uninstalled
    contradiction
  · exact labelled (storedId_eq_none_iff.1 unlabelled)

end Reconciler.Filed

/-- A claim wins exactly when it fills the slot; a claim that loses changes nothing. -/
theorem Reconciler.claim_won_iff_fills (reconciler : Reconciler) (candidate : UInt64) :
    let (won, after) := reconciler.claim candidate
    (won = true ↔ Episode.Fills ⟨reconciler, .claim candidate won, after⟩ candidate) ∧
      (won = false → after = reconciler) := by
  obtain ⟨hosted, ⟨claimed⟩⟩ := reconciler
  cases claimed <;> simp [claim, SkipSlot.claim, SkipSlot.empty, Episode.Fills]

namespace Session

open Reconciler

variable {first last : Reconciler} {earlier later episodes : List Episode} {episode : Episode}

/-- The slot is empty until an episode fills it. -/
theorem slot_eq_empty (session : Session first episodes last) (free : first.slot = .empty)
    (unfilled : ∀ episode ∈ episodes, ∀ id, ¬ episode.Fills id) : last.slot = .empty := by
  induction session with
  | nil => exact free
  | cons genuine rest ih =>
    obtain ⟨kept, unfilled⟩ := List.forall_mem_cons.1 unfilled
    obtain same | ⟨id, fills⟩ := genuine.slot_eq_or_fills
    · exact ih (same.trans free) unfilled
    · exact absurd fills (kept id)

/-- An episode that fills the slot is the only one. -/
theorem not_fills_of_fills (session : Session first (earlier ++ episode :: later) last) {id : UInt64}
    (fills : episode.Fills id) : ∀ other ∈ earlier ++ later, ∀ otherId, ¬ other.Fills otherId := by
  obtain ⟨before, genuine, after⟩ := session.cut
  intro other member otherId ⟨free, filled⟩
  rcases List.mem_append.1 member with past | future
  · obtain ⟨prefix', suffix, rfl⟩ := List.append_of_mem past
    have full := (before.cut.2.2.of_full filled).1
    rw [fills.1] at full
    exact nomatch full
  · have full := (after.of_full fills.2).2 other future
    rw [free] at full
    exact nomatch full.1

/-- In a session that starts with an empty slot, at most one episode fills the slot, and the slot keeps
what it was filled with. A claim wins exactly when it fills the slot. A report that fills it has listed
the check of a skipped run, and whatever it stores, updates or returns is that check; a report that
carries a check of no other origin is one that fills the slot. -/
theorem skip_slot_is_used_once {hosted : Bool}
    (session : Session { hasHosting := hosted } (earlier ++ episode :: later) last) :
    ((∀ other ∈ earlier, ∀ id, ¬ other.Fills id) → episode.before.slot.claimed = none) ∧
    (∀ id, episode.after.slot.claimed = some id → last.slot.claimed = some id ∧
      ∀ next ∈ later, next.before.slot.claimed = some id ∧ next.after.slot.claimed = some id) ∧
    (∀ id, episode.Fills id → ∀ other ∈ earlier ++ later, ∀ otherId, ¬ other.Fills otherId) ∧
    (∀ candidate won, episode.deed = .claim candidate won →
      (won = true ↔ episode.Fills candidate) ∧ (won = false → episode.after = episode.before)) ∧
    ∀ filing turns result, episode.deed = .report filing turns result →
      (∀ id, episode.Fills id →
        (∃ (checks : List ExistingCheck) (check : ExistingCheck),
          (⟨.list filing.event filing.options.applicationId, .ok checks⟩ : CallTurn) ∈ turns ∧
            check ∈ checks ∧ check.id = id ∧ check.title = some "Skipped" ∧
            ∃ summary, check.summary = some summary ∧
              "is skipping this commit".toList <:+: summary.toList) ∧
        CarriesOnly id turns ∧
        ∀ closed, result = .ok (some closed) → closed.id = id) ∧
      (∀ id, (∃ turn ∈ turns, turn.question.checkId? = some id) →
        filing.request.run.bind Run.checkId? ≠ some id →
        (∀ turn ∈ turns, turn.createdId? ≠ some id) →
        (∀ turn ∈ turns, ∀ check ∈ turn.listed, check.id = id →
          check.externalId ≠ some filing.request.runName) →
        episode.Fills id) ∧
      (filing.event.installationId ≤ 0 ∨ filing.request.run.bind Run.checkIdText ≠ none →
        episode.after.slot = episode.before.slot) := by
  obtain ⟨before, genuine, after⟩ := session.cut
  refine ⟨fun unfilled => ?_, fun id full => ?_, fun id fills => session.not_fills_of_fills fills,
    ?_, ?_⟩
  · rw [before.slot_eq_empty rfl unfilled]
    rfl
  · obtain ⟨kept, unchanged⟩ := after.of_full (congrArg SkipSlot.mk full)
    exact ⟨by rw [kept], fun next member => by simp [unchanged next member]⟩
  · intro candidate won claimed
    cases genuine with
    | report => exact nomatch claimed
    | claim reconciler other =>
      obtain ⟨rfl, rfl⟩ := Deed.claim.inj claimed
      exact reconciler.claim_won_iff_fills other
  · intro filing turns result reported
    cases genuine with
    | claim => exact nomatch reported
    | @report reconciler _ _ ended admits =>
      obtain ⟨rfl, rfl, rfl⟩ := Deed.report.inj reported
      have filed := report_admits_iff.1 admits
      refine ⟨fun id fills => ?_, fun id carried unlabelled uncreated unnamed => ?_, fun settled => ?_⟩
      · obtain ⟨⟨checks, check, listed, present, same, skipped⟩, carries, handed⟩ :=
          filed.of_fills fills.1 fills.2
        exact ⟨⟨checks, check, listed, present, same, check.isSkipped_iff.1 skipped⟩, carries, handed⟩
      · obtain ⟨turn, member, carries⟩ := carried
        cases (Episode.Genuine.report admits).origin rfl member carries with
        | label stored => exact absurd stored unlabelled
        | creation member created => exact absurd created (uncreated _ member)
        | name member listed same named => exact absurd named (unnamed _ member _ listed same)
        | claim free filled => exact ⟨free, filled⟩
      · refine filed.slot_eq_of_settled (settled.imp_left fun absent => ?_)
        exact decide_eq_false (Int64.not_lt.2 absent)

/-- A run takes over the check of a skipped run and cannot store its identifier; the slot stays full. -/
theorem skip_slot_is_used_once_by_failed_report :
    let event : Event := ⟨"acme", "widgets", "0123abc", .push, none, 7⟩
    let run : Run := { name := "ci", namespaceName := "jobs" }
    let filing : Filing := ⟨.epoch, event, .default,
      { runName := "ci", phase := .queued, outcome := .pending, run := some run }⟩
    let world : Rehearsal :=
      { checks := [⟨5, none, some "Skipped", some "CI is skipping this commit."⟩]
        failing := [.patch] }
    let reporting := ({ hasHosting := true } : Reconciler).reportEpisode Rehearsal.answerer world filing
    let claiming := reporting.after.claimEpisode 9
    Session { hasHosting := true } [reporting, claiming] claiming.after ∧ reporting.Fills 5 ∧
      (∀ other ∈ [claiming], ∀ id, ¬ other.Fills id) ∧ claiming.after.slot.claimed = some 5 := by
  intro event run filing world reporting claiming
  have session : Session { hasHosting := true } ([] ++ reporting :: [claiming]) claiming.after :=
    .cons (Episode.genuine_iff.2 (.inr ⟨_, _, _, _, _, rfl⟩))
      (.cons (Episode.genuine_iff.2 (.inl ⟨_, _, rfl⟩)) (.nil _))
  have fills : reporting.Fills 5 := ⟨rfl, rfl⟩
  obtain ⟨-, kept, single, -⟩ := skip_slot_is_used_once session
  exact ⟨session, fills, single 5 fills, (kept 5 rfl).1⟩

end Session
end CommitChecks

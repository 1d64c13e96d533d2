import CommitChecks.Proofs.ReportCourses
import CommitChecks.Rehearsal

/-!
# Which check a report discovers

A report of a run without a label first lists the checks of the commit. `Discovered` says how it goes on
from there: with the first usable check, which may fill the skip slot, or else with a new check. The
main statement, `report_uses_first_usable_check`, says so of every report, against whoever replies.
-/

namespace CommitChecks

/-- Whether a report goes on with a check: one of its calls carries the check, none carries another one,
and no other one is returned. -/
structure GoesOnWith (id : UInt64) (turns : List CallTurn)
    (result : Except Failure (Option CheckHandle)) : Prop where
  carried : ∃ turn ∈ turns, turn.question.checkId? = some id
  only : CarriesOnly id turns
  handed : ∀ handle, result = .ok (some handle) → handle.id = id

/-- A listing carries no check. -/
theorem GoesOnWith.listing {id : UInt64} {listed : CallTurn} {rest : List CallTurn}
    {result : Except Failure (Option CheckHandle)} (lists : listed.question.kind = .list)
    (goesOn : GoesOnWith id rest result) :
    GoesOnWith id (listed :: rest) result where
  carried := by
    obtain ⟨turn, member, carries⟩ := goesOn.carried
    exact ⟨turn, List.mem_cons_of_mem _ member, carries⟩
  only := List.forall_mem_cons.2 ⟨by simp [lists], goesOn.only⟩
  handed := goesOn.handed

namespace CheckMode

variable (now : Timestamp) (event : Event) (options : Options) (request : StatusRequest)

/-- How a report of a run without a label goes on once the checks are listed. -/
inductive Discovered (slot : SkipSlot) (checks : List ExistingCheck) :
    List CallTurn → Report CheckHandle → Prop
  | reused {check : ExistingCheck} {rest : List CallTurn} {result : Except Failure CheckHandle}
      (first : checks.find? (Usable request.runName slot ·) = some check)
      (stored : Stored now event options request check.id rest result) :
      Discovered slot checks rest ⟨result, slotAfter slot check⟩
  | renewed {reply : Except Failure UInt64} {rest : List CallTurn}
      {result : Except Failure CheckHandle}
      (free : ∀ check ∈ checks, ¬ Usable request.runName slot check) :
      Discovered slot checks
        (⟨.create event (newCheck now event options request), reply⟩ :: rest) ⟨result, slot⟩

variable {now event options request}
variable {slot : SkipSlot} {id : UInt64} {turns : List CallTurn} {ended : Report CheckHandle}

/-- A report of a run without a label starts with a listing, and what it goes on with depends on what is
listed. -/
theorem Reported.of_unlabelled (reported : Reported now event options request slot turns ended)
    (unlabelled : storedId request = .ok none) :
    ∃ (reply : Except Failure (List ExistingCheck)) (rest : List CallTurn),
      turns = ⟨.list event options.applicationId, reply⟩ :: rest ∧
        ∀ checks, reply = .ok checks →
          Discovered now event options request slot checks rest ended := by
  cases reported with
  | unreadable label => rw [unlabelled] at label; exact nomatch label
  | labelled label => rw [unlabelled] at label; exact nomatch label
  | unlisted _ failure => exact ⟨.error failure, [], rfl, nofun⟩
  | @uncreated checks _ choice failure =>
    refine ⟨.ok checks, _, rfl, fun listed same => ?_⟩
    obtain rfl := Except.ok.inj same
    exact .renewed (choose_eq_none_iff.1 choice).2
  | found _ found stored =>
    cases found with
    | @chosen checks _ _ _ choice =>
      refine ⟨.ok checks, _, rfl, fun listed same => ?_⟩
      obtain rfl := Except.ok.inj same
      obtain ⟨check, first, rfl, rfl⟩ := find?_of_choose choice
      exact .reused first stored
    | @created checks _ choice =>
      refine ⟨.ok checks, _, rfl, fun listed same => ?_⟩
      obtain rfl := Except.ok.inj same
      exact .renewed (choose_eq_none_iff.1 choice).2

variable {result : Except Failure CheckHandle} {checks : List ExistingCheck} {rest : List CallTurn}

/-- Once it knows its check, a report makes a call that carries the check. -/
theorem Stored.exists_carrying (stored : Stored now event options request id turns result) :
    ∃ turn ∈ turns, turn.question.checkId? = some id := by
  cases stored with
  | runless _ updated => cases updated <;> simp [Call.checkId?]
  | unpatched => simp [Call.checkId?]
  | patched => simp [Call.checkId?]

theorem Stored.goesOnWith (stored : Stored now event options request id turns result) :
    GoesOnWith id turns (result.map some) where
  carried := stored.exists_carrying
  only := stored.carriesOnly
  handed handle returned := by
    cases succeeded : result with
    | error failure => simp [succeeded, Except.map] at returned
    | ok closed =>
      obtain ⟨rfl, -⟩ := stored.ok_iff.1 succeeded
      simp only [succeeded, Except.map, Except.ok.injEq, Option.some.injEq] at returned
      rw [← returned]
      rfl

/-- A new check is created exactly when no listed check is usable. -/
theorem Discovered.creates_iff
    (discovered : Discovered now event options request slot checks rest ended) :
    (∃ turn ∈ rest, turn.question.kind = .create) ↔
      ∀ check ∈ checks, ¬ Usable request.runName slot check := by
  cases discovered with
  | @reused check _ _ first stored =>
    have usable := usable_of_find? first
    constructor
    · rintro ⟨turn, member, creates⟩
      exact absurd member (Turn.not_mem_of_kinds stored.kinds (by simp [creates]))
    · exact fun free => absurd usable (free check (List.mem_of_find?_eq_some first))
  | renewed free => exact ⟨fun _ => free, fun _ => ⟨_, List.mem_cons_self, rfl⟩⟩

/-- With no usable check listed, the skip slot stays as it was. -/
theorem Discovered.slot_eq_of_free
    (discovered : Discovered now event options request slot checks rest ended)
    (free : ∀ check ∈ checks, ¬ Usable request.runName slot check) : ended.slot = slot := by
  cases discovered with
  | @reused check _ _ first stored =>
    have usable := usable_of_find? first
    exact absurd usable (free check (List.mem_of_find?_eq_some first))
  | renewed => rfl

/-- With a usable check listed, a report goes on with the first one. -/
theorem Discovered.of_first_usable {before after : List ExistingCheck} {first : ExistingCheck}
    (discovered : Discovered now event options request slot (before ++ first :: after) rest ended)
    (unusable : ∀ other ∈ before, ¬ Usable request.runName slot other)
    (usable : Usable request.runName slot first) :
    GoesOnWith first.id rest (ended.result.map some) ∧ ended.slot = slotAfter slot first := by
  have found := find?_of_first_usable after unusable usable
  cases discovered with
  | reused same stored =>
    obtain rfl := Option.some.inj (found.symm.trans same)
    exact ⟨stored.goesOnWith, rfl⟩
  | renewed free => exact absurd usable (free first (by simp))

/-- While the slot is full, only a name leads to a listed check. -/
theorem Discovered.of_full
    (discovered : Discovered now event options request slot checks rest ended)
    (full : slot.claimed ≠ none) :
    ended.slot = slot ∧ ((∀ check ∈ checks, ¬ Usable request.runName slot check) ∨
      ∃ check ∈ checks, check.externalId = some request.runName ∧
        GoesOnWith check.id rest (ended.result.map some)) := by
  have taken : slot ≠ .empty := fun free => full (by rw [free]; rfl)
  cases discovered with
  | @reused check _ _ first stored =>
    have usable := usable_of_find? first
    have named : check.externalId = some request.runName :=
      usable.resolve_left fun both => taken both.1
    refine ⟨if_neg fun both => taken both.1, .inr ⟨check, ?_, named, stored.goesOnWith⟩⟩
    exact List.mem_of_find?_eq_some first
  | renewed free => exact ⟨rfl, .inl free⟩

/-- Nothing that is listed after a check with the name of the run matters. -/
theorem Discovered.of_named {before after : List ExistingCheck} {named : ExistingCheck}
    (discovered : Discovered now event options request slot (before ++ named :: after) rest ended)
    (carriesName : named.externalId = some request.runName) :
    ∃ check ∈ before ++ [named], GoesOnWith check.id rest (ended.result.map some) ∧
      ended.slot = slotAfter slot check := by
  have present : named ∈ before ++ [named] := by simp
  obtain ⟨earlier, first, later, cut, unusable, suits⟩ :=
    exists_first_usable present (.inr carriesName : Usable request.runName slot named)
  rw [List.append_cons, cut, List.append_assoc, List.cons_append] at discovered
  exact ⟨first, by simp [cut], discovered.of_first_usable unusable suits⟩

end CheckMode

namespace Reconciler

open CheckMode

/-- A report of an event with an app installation, for a run without a label, starts with a listing. If
that succeeds, the report goes on with the first listed check that carries the name of the run or, while
the skip slot is free, is the check of a skipped run; only if there is none does it create a check. The
slot is filled by a skipped check that is chosen while it is free, and by nothing else. So once the slot
is full only a name leads to a listed check, and nothing listed after a check of that name matters. -/
theorem report_uses_first_usable_check {World : Type} (answerer : Answerer Call Call.Reply World)
    (world : World) {reconciler : Reconciler} (now : Timestamp) {event : Event} (options : Options)
    {request : StatusRequest} (hosted : reconciler.hasHosting = true)
    (installed : 0 < event.installationId)
    (unlabelled : request.run.bind Run.checkIdText = none) :
    let dialogue := reconciler.report now event options request
    let turns := dialogue.turns answerer world
    let ended := (dialogue.run answerer world).result
    ∃ (reply : Except Failure (List ExistingCheck)) (rest : List CallTurn),
      turns = ⟨.list event options.applicationId, reply⟩ :: rest ∧
      ∀ checks, reply = .ok checks →
        ((∃ turn ∈ turns, turn.question.kind = .create) ↔
          ∀ check ∈ checks, ¬ Usable request.runName reconciler.slot check) ∧
        (∀ before first after, checks = before ++ first :: after →
          (∀ other ∈ before, ¬ Usable request.runName reconciler.slot other) →
          Usable request.runName reconciler.slot first →
            GoesOnWith first.id turns ended.result ∧
              ended.slot = slotAfter reconciler.slot first) ∧
        ((∀ check ∈ checks, ¬ Usable request.runName reconciler.slot check) →
          ended.slot = reconciler.slot) ∧
        (reconciler.slot.claimed ≠ none → ended.slot = reconciler.slot ∧
          ((∃ turn ∈ turns, turn.question.kind = .create) ∨
            ∃ check ∈ checks, check.externalId = some request.runName ∧
              GoesOnWith check.id turns ended.result)) ∧
        ∀ before named after, checks = before ++ named :: after →
          named.externalId = some request.runName →
            ∃ check ∈ before ++ [named], GoesOnWith check.id turns ended.result ∧
              ended.slot = slotAfter reconciler.slot check := by
  intro dialogue turns ended
  have filed : Filed now event options request reconciler turns _ :=
    report_admits_iff.1 (Dialogue.admits_run answerer dialogue world)
  obtain ⟨inner, reported, same⟩ := filed.of_installed hosted (decide_eq_true installed)
  have outer : ended.result = inner.result.map some := congrArg Report.result same
  have slots : ended.slot = inner.slot := congrArg Report.slot same
  obtain ⟨reply, rest, whole, goesOn⟩ := reported.of_unlabelled (storedId_eq_none_iff.2 unlabelled)
  have creates : (∃ turn ∈ turns, turn.question.kind = .create) ↔
      ∃ turn ∈ rest, turn.question.kind = .create := by
    simp [whole, Call.kind]
  have carries : ∀ {id}, GoesOnWith id rest (inner.result.map some) →
      GoesOnWith id turns ended.result := by
    intro id inside
    rw [whole, outer]
    exact inside.listing rfl
  rw [slots, creates]
  refine ⟨reply, rest, whole, fun checks listed => ?_⟩
  have discovered := goesOn checks listed
  refine ⟨discovered.creates_iff, ?_, discovered.slot_eq_of_free, fun full => ?_, ?_⟩
  · rintro before first after rfl unusable usable
    exact (discovered.of_first_usable unusable usable).imp carries id
  · refine (discovered.of_full full).imp id (Or.imp discovered.creates_iff.2 ?_)
    rintro ⟨check, present, named, inside⟩
    exact ⟨check, present, named, carries inside⟩
  · rintro before named after rfl carriesName
    obtain ⟨check, present, inside, filled⟩ := discovered.of_named carriesName
    exact ⟨check, present, carries inside, filled⟩

/-- The check of a skipped run is passed over, and the slot stays free, if a check with the name of the
run is listed before it. -/
theorem report_uses_first_usable_check_by_name :
    let event : Event := ⟨"acme", "widgets", "0123abc", .push, none, 7⟩
    let run : Run := { name := "ci", namespaceName := "jobs" }
    let request : StatusRequest :=
      { runName := "ci", phase := .completed, outcome := .success, run := some run }
    let named : ExistingCheck := ⟨41, some "ci", none, none⟩
    let checks : List ExistingCheck := [⟨40, some "lint", some "Success", none⟩, named,
      ⟨42, none, some "Skipped", some "CI is skipping this commit."⟩]
    let world : Rehearsal := { checks := checks }
    let reconciler : Reconciler := { hasHosting := true }
    let dialogue := reconciler.report .epoch event .default request
    let turns := dialogue.turns Rehearsal.answerer world
    let ended := (dialogue.run Rehearsal.answerer world).result
    reconciler.hasHosting = true ∧ 0 < event.installationId ∧
      request.run.bind Run.checkIdText = none ∧
      (∃ rest, turns = ⟨.list event none, .ok checks⟩ :: rest) ∧
      (∃ turn ∈ turns, turn.question.kind = .update) ∧
      GoesOnWith 41 turns ended.result ∧ ended.slot = .empty := by
  intro event run request named checks world reconciler dialogue turns ended
  have hosted : reconciler.hasHosting = true := rfl
  have installed : 0 < event.installationId := by decide
  have unlabelled : request.run.bind Run.checkIdText = none := rfl
  have updates : ∃ turn ∈ turns, turn.question.kind = .update := by decide +kernel
  obtain ⟨reply, rest, whole, goesOn⟩ := report_uses_first_usable_check Rehearsal.answerer world
    .epoch .default hosted installed unlabelled
  obtain rfl : reply = .ok checks := by
    injection whole with first
    injection first with _ same
    exact same.symm
  have unusable : ∀ other ∈ checks.take 1, ¬ Usable request.runName reconciler.slot other := by
    decide +kernel
  obtain ⟨carries, kept⟩ := (goesOn checks rfl).2.1 (checks.take 1) named (checks.drop 2) rfl
    unusable (.inr rfl)
  refine ⟨hosted, installed, unlabelled, ⟨rest, whole⟩, updates, carries, ?_⟩
  rw [kept, slotAfter, if_neg (by decide +kernel)]

end Reconciler
end CommitChecks

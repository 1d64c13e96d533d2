import CommitChecks.Proofs.CheckMode.Contents
import CommitChecks.Proofs.ReportCourses
import CommitChecks.Rehearsal
import Mathlib.Data.List.Nodup

/-!
# A report through checks stops at the first failure

`itinerary` is the sequence of calls that a report makes if nothing stops it, given what the
collaborators would reply to each call. `FailStop` says that calls were made along such a plan up to
the first one that failed, logs apart, and that its failure is how the whole thing ended. The main
statement, `report_stops_at_first_failure`, says so of every report, against whoever replies.
-/

namespace CommitChecks

/-- Whether the call ends the report it was made in: it failed, and was not for mere logs. -/
def Turn.stops (turn : CallTurn) : Bool :=
  turn.question.kind ≠ .logs && turn.failure?.isSome

/-- Calls were made along a plan until one of them stopped the rest, and the whole ended with its
failure, or with the success that was due after the last call. -/
structure FailStop {α : Type} (plan : List Call) (success : α) (turns : List CallTurn)
    (result : Except Failure α) : Prop where
  segment : turns.map Turn.question <+: plan
  goesOn : ∀ turn ∈ turns.dropLast, turn.stops = false
  ending : (turns.map Turn.question = plan ∧ (∀ turn ∈ turns, turn.stops = false) ∧
      result = .ok success) ∨
    ∃ last failure, turns.getLast? = some last ∧ last.stops = true ∧
      last.failure? = some failure ∧ result = .error failure

namespace FailStop

variable {α β : Type} {plan : List Call} {success : α} {turns : List CallTurn}
  {result : Except Failure α} {failure : Failure}

theorem nil : FailStop [] success [] (.ok success) :=
  ⟨List.prefix_rfl, by simp, .inl ⟨rfl, by simp, rfl⟩⟩

theorem stop (turn : CallTurn) (stops : turn.stops = true)
    (failed : turn.failure? = some failure) :
    FailStop (turn.question :: plan) success [turn] (.error failure) :=
  ⟨by simp, by simp, .inr ⟨turn, failure, rfl, stops, failed, rfl⟩⟩

theorem cons (turn : CallTurn) (passes : turn.stops = false)
    (rest : FailStop plan success turns result) :
    FailStop (turn.question :: plan) success (turn :: turns) result where
  segment := List.cons_prefix_cons.2 ⟨rfl, rest.segment⟩
  goesOn earlier member := by
    cases turns with
    | nil => simp at member
    | cons next later =>
      rcases List.mem_cons.1 member with rfl | member
      · exact passes
      · exact rest.goesOn earlier member
  ending := by
    rcases rest.ending with ⟨complete, passed, ended⟩ | ⟨last, failure, isLast, stops, failed, ended⟩
    · exact .inl ⟨congrArg (_ :: ·) complete, List.forall_mem_cons.2 ⟨passes, passed⟩, ended⟩
    · refine .inr ⟨last, failure, ?_, stops, failed, ended⟩
      rw [List.getLast?_cons, isLast, Option.getD_some]

/-- A plan whose last call gives the success. -/
theorem last (call : Call) (notLogs : call.kind ≠ .logs) (reply : call.Reply) :
    FailStop [call] success [⟨call, reply⟩] (reply.map fun _ => success) := by
  cases reply with
  | ok answer => exact cons ⟨call, .ok answer⟩ (by simp [Turn.stops, Turn.failure?]) nil
  | error failure =>
    exact stop ⟨call, .error failure⟩ (by simp [Turn.stops, Turn.failure?, notLogs]) rfl

theorem map (f : α → β) (stopped : FailStop plan success turns result) :
    FailStop plan (f success) turns (result.map f) where
  segment := stopped.segment
  goesOn := stopped.goesOn
  ending := by
    rcases stopped.ending with ⟨complete, passed, rfl⟩ | ⟨last, failure, isLast, stops, failed, rfl⟩
    · exact .inl ⟨complete, passed, rfl⟩
    · exact .inr ⟨last, failure, isLast, stops, failed, rfl⟩

end FailStop

namespace CheckMode

variable (now : Timestamp) (event : Event) (options : Options) (request : StatusRequest)
  (slot : SkipSlot) (script : (call : Call) → call.Reply)

/-- The first listed check that the run may use. -/
def reusable? : Option ExistingCheck :=
  match script (.list event options.applicationId) with
  | .ok checks => checks.find? (Usable request.runName slot ·)
  | .error _ => none

/-- The check that a report comes to: the one on the run's label, else the first usable one, else the
one that is created. -/
def destination? : Option UInt64 :=
  (request.run.bind Run.checkId?).or <|
    ((reusable? event options request slot script).map ExistingCheck.id).or
      (match script (.create event (newCheck now event options request)) with
        | .ok id => some id
        | .error _ => none)

/-- The calls that find out the check of a run without a label, and store it. -/
def acquisition (id : UInt64) : List Call :=
  .list event options.applicationId ::
    ((if (reusable? event options request slot script).isSome then []
      else [.create event (newCheck now event options request)]) ++
    request.run.toList.map fun run => .patch run (.forCheck id request.detailsUrl))

/-- The calls that update the check, with annotations from the logs if these are wanted. -/
def closing (id : UInt64) : List Call :=
  match if options.errorDetection = true ∧ request.outcome = .failure then request.run else none with
  | none => [.update event id (update now options request [])]
  | some run =>
    [.logs run options.maxLogLines,
      .update event id (update now options request
        (annotationsOf options (script (.logs run options.maxLogLines))))]

/-- The calls of a report that nothing stops. -/
def itinerary (id : UInt64) : List Call :=
  (if request.run.bind Run.checkIdText = none then
    acquisition now event options request slot script id else []) ++
  closing now event options request script id

variable {now event options request slot script}
variable {id : UInt64} {turns : List CallTurn} {result : Except Failure CheckHandle}

theorem Updated.failStop (updated : Updated now event options request id turns result)
    (follows : ∀ turn ∈ turns, turn.answer = script turn.question) :
    FailStop (closing now event options request script id) (handle request id) turns result := by
  cases updated with
  | plain unread reply =>
    rw [runWithLogs?] at unread
    simp only [closing, unread]
    exact .last (.update event id _) (by simp [Call.kind]) reply
  | @searched run read logs reply =>
    have logged : script (.logs run options.maxLogLines) = logs :=
      (follows _ List.mem_cons_self).symm
    rw [runWithLogs?] at read
    simp only [closing, read, logged]
    exact .cons ⟨.logs run options.maxLogLines, logs⟩ rfl
      (.last (.update event id _) (by simp [Call.kind]) reply)

theorem Stored.failStop (stored : Stored now event options request id turns result)
    (follows : ∀ turn ∈ turns, turn.answer = script turn.question) :
    FailStop
      ((request.run.toList.map fun run => .patch run (.forCheck id request.detailsUrl)) ++
        closing now event options request script id)
      (handle request id) turns result := by
  cases stored with
  | runless none updated =>
    rw [none]
    exact updated.failStop follows
  | @unpatched run some failure =>
    rw [some]
    exact .stop ⟨.patch run (.forCheck id request.detailsUrl), .error failure⟩ rfl rfl
  | @patched run _ _ some updated =>
    rw [some]
    exact .cons ⟨.patch run (.forCheck id request.detailsUrl), .ok ()⟩ rfl
      (updated.failStop fun turn member => follows turn (List.mem_cons_of_mem _ member))

theorem reusable?_map_id {checks : List ExistingCheck}
    (listed : script (.list event options.applicationId) = .ok checks) :
    (reusable? event options request slot script).map ExistingCheck.id =
      (choose request.runName slot checks).1.map Prod.fst := by
  rw [choose_fst, reusable?]
  simp only [listed]

theorem reusable?_eq_none {checks : List ExistingCheck}
    (listed : script (.list event options.applicationId) = .ok checks)
    (choice : choose request.runName slot checks = (none, slot)) :
    reusable? event options request slot script = none := by
  rw [← Option.map_eq_none_iff, reusable?_map_id listed, choice, Option.map_none]

theorem itinerary_of_labelled (label : storedId request = .ok (some id)) :
    itinerary now event options request slot script id =
      closing now event options request script id := by
  have present : request.run.bind Run.checkIdText ≠ none := fun absent => by
    rw [storedId_eq_none_iff.2 absent] at label
    exact nomatch label
  rw [itinerary, if_neg present, List.nil_append]

theorem itinerary_of_unlabelled (label : storedId request = .ok none) :
    itinerary now event options request slot script id =
      acquisition now event options request slot script id ++
        closing now event options request script id := by
  rw [itinerary, if_pos (storedId_eq_none_iff.1 label)]

theorem destination?_of_unlabelled (label : storedId request = .ok none) :
    destination? now event options request slot script =
      ((reusable? event options request slot script).map ExistingCheck.id).or
        (match script (.create event (newCheck now event options request)) with
          | .ok id => some id
          | .error _ => none) := by
  have absent : request.run.bind Run.checkId? = none := by
    refine Option.eq_none_iff_forall_ne_some.2 fun id present => ?_
    rw [storedId_eq_some_iff.2 present] at label
    exact nomatch label
  rw [destination?, absent, Option.none_or]

/-- A report whose label can be read follows the itinerary to the check it comes to. -/
theorem Reported.failStop {ended : Report CheckHandle}
    (reported : Reported now event options request slot turns ended)
    (readable : ∀ failure, storedId request ≠ .error failure)
    (follows : ∀ turn ∈ turns, turn.answer = script turn.question) :
    ∃ id, (∀ reached, destination? now event options request slot script = some reached →
        id = reached) ∧
      FailStop (itinerary now event options request slot script id) (handle request id) turns
        ended.result ∧
      CarriesOnly id turns := by
  -- Where no check was reached, any identifier will do for the calls that were never made.
  let unreached := (destination? now event options request slot script).getD 0
  have unreached_eq : ∀ reached, destination? now event options request slot script = some reached →
      unreached = reached := fun _ reaches => by simp [unreached, reaches]
  cases reported with
  | unreadable label => exact absurd label (readable _)
  | @labelled id _ _ label updated =>
    refine ⟨id, ?_, ?_, updated.carriesOnly⟩
    · simp [destination?, storedId_eq_some_iff.1 label]
    · rw [itinerary_of_labelled label]
      exact updated.failStop follows
  | unlisted label failure =>
    refine ⟨unreached, unreached_eq, ?_, .of_kinds (by simp [Call.kind])⟩
    rw [itinerary_of_unlabelled label]
    exact .stop ⟨.list event options.applicationId, .error failure⟩ rfl rfl
  | @uncreated checks label choice failure =>
    obtain ⟨listed, -⟩ := List.forall_mem_cons.1 follows
    have missing := reusable?_eq_none listed.symm choice
    refine ⟨unreached, unreached_eq, ?_, .of_kinds (by simp [Call.kind])⟩
    rw [itinerary_of_unlabelled label, acquisition, missing]
    exact .cons ⟨.list event options.applicationId, .ok checks⟩ rfl
      (.stop ⟨.create event (newCheck now event options request), .error failure⟩ rfl rfl)
  | @found id _ _ _ _ label found stored =>
    have carries := found.carriesOnly stored
    cases found with
    | @chosen checks _ reason after choice =>
      obtain ⟨listed, follows⟩ := List.forall_mem_cons.1 follows
      have found : (reusable? event options request slot script).map ExistingCheck.id = some id := by
        rw [reusable?_map_id listed.symm, choice, Option.map_some]
      refine ⟨id, ?_, ?_, carries⟩
      · simp [destination?_of_unlabelled label, found]
      · have reused : (reusable? event options request slot script).isSome = true := by
          rw [← Option.isSome_map, found]; rfl
        rw [itinerary_of_unlabelled label, acquisition, if_pos reused]
        exact .cons ⟨.list event options.applicationId, .ok checks⟩ rfl (stored.failStop follows)
    | @created checks _ choice =>
      obtain ⟨listed, follows⟩ := List.forall_mem_cons.1 follows
      obtain ⟨scripted, follows⟩ := List.forall_mem_cons.1 follows
      have missing := reusable?_eq_none listed.symm choice
      refine ⟨id, ?_, ?_, carries⟩
      · rw [destination?_of_unlabelled label, missing, Option.map_none, Option.none_or, ← scripted]
        exact fun _ same => Option.some.inj same
      · rw [itinerary_of_unlabelled label, acquisition, missing]
        exact .cons ⟨.list event options.applicationId, .ok checks⟩ rfl
          (.cons ⟨.create event (newCheck now event options request), .ok id⟩ rfl
            (stored.failStop follows))

end CheckMode

namespace Reconciler

open CheckMode

/-- A report of an event with an app installation makes its calls along the itinerary until one other
than for logs fails, and ends with that failure unchanged; it returns the handle of its check exactly
if it gets to update it. A label that holds no number and a missing hosting service end it at once. -/
theorem report_stops_at_first_failure {World : Type} (answerer : Answerer Call Call.Reply World)
    (world : World) (reconciler : Reconciler) (now : Timestamp) (event : Event) (options : Options)
    (request : StatusRequest) :
    let dialogue := reconciler.report now event options request
    let turns := dialogue.turns answerer world
    let result := (dialogue.run answerer world).result.result
    let worded := Conclusion.apply options request
    (reconciler.hasHosting = false → turns = [] ∧
      result = .error (.configuration "cannot set status: no hosting-service token or url set")) ∧
    (reconciler.hasHosting = true → 0 < event.installationId →
      (∀ text, request.run.bind Run.checkIdText = some text →
        Decimal.readUInt64 text.toList = none →
          turns = [] ∧ result = .error (.invalidState s!"cannot convert check run id '{text}'")) ∧
      ((∀ text, request.run.bind Run.checkIdText = some text →
        Decimal.readUInt64 text.toList ≠ none) →
          ((∃ closed, result = .ok closed) ↔
            ∃ turn ∈ turns, turn.question.kind = .update ∧ turn.failure? = none) ∧
          ((∃ turn ∈ turns, turn.question.kind = .logs ∧ turn.failure? ≠ none) →
            ∀ turn ∈ turns, ∀ annotations, turn.question.annotations? = some annotations →
              annotations = []) ∧
          ∃ (script : (call : Call) → call.Reply) (id : UInt64),
            (∀ turn ∈ turns, turn.answer = script turn.question) ∧
            (∀ reached, destination? now event options worded reconciler.slot script = some reached →
              id = reached) ∧
            CarriesOnly id turns ∧
            FailStop (itinerary now event options worded reconciler.slot script id)
              (some ⟨id, request.runName⟩) turns result)) := by
  intro dialogue turns result worded
  have filed : Filed now event options request reconciler turns _ :=
    report_admits_iff.1 (Dialogue.admits_run answerer dialogue world)
  refine ⟨fun absent => ?_, fun present positive => ?_⟩
  · obtain ⟨silent, ended⟩ := filed.of_unhosted absent
    exact ⟨silent, congrArg Report.result ended⟩
  have installed : event.hasAppInstallation = true := decide_eq_true positive
  obtain ⟨inner, reported, ended⟩ := filed.of_installed present installed
  have outer : result = inner.result.map some := congrArg Report.result ended
  refine ⟨fun text label unread => ?_, fun readable => ⟨?_, ?_, ?_⟩⟩
  · have unreadable : storedId worded = .error (.unreadableCheckId text) :=
      storedId_eq_error_iff.2 ⟨text, label, unread, rfl⟩
    obtain ⟨silent, rfl⟩ := reported.of_unreadable unreadable
    exact ⟨silent, outer⟩
  · rw [← reported.ok_iff, outer]
    cases inner.result <;> simp [Except.map]
  · exact reported.annotations_of_failed_logs
  · have legible : ∀ failure, storedId worded ≠ .error failure := fun failure unreadable => by
      obtain ⟨text, label, unread, -⟩ := storedId_eq_error_iff.1 unreadable
      exact readable text label unread
    have distinct : (turns.map Turn.question).Nodup := by
      refine List.Nodup.of_map Call.kind ?_
      rw [List.map_map]
      exact reported.kinds.nodup (by decide)
    obtain ⟨script, follows⟩ := exists_script distinct
    obtain ⟨id, reaches, stopped, carries⟩ := reported.failStop legible follows
    exact ⟨script, id, follows, reaches, carries, outer ▸ stopped.map some⟩

/-- A report that reuses a check and cannot store its identifier on the run. -/
theorem report_stops_at_failed_patch :
    let event : Event := ⟨"acme", "widgets", "0123abc", .push, none, 7⟩
    let run : Run := { name := "ci", namespaceName := "jobs" }
    let request : StatusRequest :=
      { runName := "ci", phase := .completed, outcome := .failure, run := some run }
    let world : Rehearsal := { checks := [⟨41, some "ci", none, none⟩], failing := [.patch] }
    let dialogue := report ⟨true, .empty⟩ .epoch event .default request
    let turns := dialogue.turns Rehearsal.answerer world
    let result := (dialogue.run Rehearsal.answerer world).result.result
    0 < event.installationId ∧
      (∀ text, request.run.bind Run.checkIdText = some text →
        Decimal.readUInt64 text.toList ≠ none) ∧
      turns.map (fun turn => turn.question.kind) = [.list, .patch] ∧
      result = .error (.persist "ci" "the object has been modified") ∧
      ∃ script id,
        FailStop (itinerary .epoch event .default (Conclusion.apply .default request) .empty
          script id) (some ⟨id, "ci"⟩) turns result := by
  intro event run request world dialogue turns result
  have positive : 0 < event.installationId := by decide
  have unlabelled : ∀ text, request.run.bind Run.checkIdText = some text →
      Decimal.readUInt64 text.toList ≠ none := fun text label => nomatch label
  have stopped := (report_stops_at_first_failure Rehearsal.answerer world ⟨true, .empty⟩ .epoch
    event .default request).2 rfl positive
  obtain ⟨script, id, -, -, -, failStop⟩ := (stopped.2 unlabelled).2.2
  exact ⟨positive, unlabelled, rfl, rfl, script, id, failStop⟩

end Reconciler
end CommitChecks

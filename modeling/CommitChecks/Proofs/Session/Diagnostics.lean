import CommitChecks.Proofs.Essence
import CommitChecks.Proofs.Session.RunStore
import CommitChecks.Rehearsal
import Mathlib.Data.List.Forall2

/-!
# Diagnostics only enrich a session

Whether logs are searched, with which pattern, how many lines are asked for, what the logs hold and
whether they can be read has no influence on a session but for the annotations of updates. Reports with
options that differ in these points hold conversations that are alike, so two sessions of this kind go
the same way, episode by episode.
-/

namespace CommitChecks

/-- Whether options differ at most in how diagnostics are found. -/
structure Options.SameButDiagnostics (options others : Options) : Prop where
  applicationName : options.applicationName = others.applicationName
  applicationId : options.applicationId = others.applicationId

/-! ## Reports are alike -/

namespace CheckMode

variable {Result : Type} {now : Timestamp} {event : Event} {options others : Options}
variable {request : StatusRequest} {slot : SkipSlot} {id : UInt64}

theorem withAnnotations_alike_left {next : List Diagnostic → Conversation Result}
    {right : Conversation Result} (alike : ∀ annotations, Alike (next annotations) right) :
    Alike (withAnnotations options request next) right := by
  unfold withAnnotations
  split
  · exact alike []
  · refine .logsLeft fun reply => ?_
    cases reply with
    | ok logs => exact .noteAllLeft _ (alike _)
    | error failure => exact .noteLeft _ (alike [])

theorem withAnnotations_alike_right {next : List Diagnostic → Conversation Result}
    {left : Conversation Result} (alike : ∀ annotations, Alike left (next annotations)) :
    Alike left (withAnnotations options request next) := by
  unfold withAnnotations
  split
  · exact alike []
  · refine .logsRight fun reply => ?_
    cases reply with
    | ok logs => exact .noteAllRight _ (alike _)
    | error failure => exact .noteRight _ (alike [])

/-- What is done with annotations is alike, whatever annotations there are. -/
theorem withAnnotations_alike {left right : List Diagnostic → Conversation Result}
    (alike : ∀ found other, Alike (left found) (right other)) :
    Alike (withAnnotations options request left) (withAnnotations others request right) :=
  withAnnotations_alike_left fun found => withAnnotations_alike_right fun other => alike found other

variable (same : options.SameButDiagnostics others)
include same

theorem checkName_eq : Conclusion.checkName options request = Conclusion.checkName others request := by
  rw [Conclusion.checkName, Conclusion.checkName, same.applicationName]

theorem submit_alike :
    Alike (submit now event options request slot id) (submit now event others request slot id) := by
  refine withAnnotations_alike fun found other => .update ?_ fun reply => ?_
  · simp only [CheckUpdate.blank, update, checkName_eq same]
  · cases reply <;> exact .done _

theorem store_alike :
    Alike (store now event options request slot id) (store now event others request slot id) := by
  unfold store
  cases request.run with
  | none => exact submit_alike same
  | some run =>
    refine .ask (by simp [Call.kind]) fun reply => ?_
    cases reply with
    | ok => exact submit_alike same
    | error => exact .done _

theorem create_alike :
    Alike (create now event options request slot) (create now event others request slot) := by
  have new : newCheck now event options request = newCheck now event others request := by
    rw [newCheck, newCheck, checkName_eq same]
  unfold create
  rw [new]
  refine .ask (by simp [Call.kind]) fun reply => ?_
  cases reply with
  | ok => exact .noteLeft _ (.noteRight _ (store_alike same))
  | error => exact .done _

theorem discover_alike :
    Alike (discover now event options request slot) (discover now event others request slot) := by
  unfold discover
  rw [same.applicationId]
  refine .ask (by simp [Call.kind]) fun reply => ?_
  cases reply with
  | error => exact .done _
  | ok checks =>
    dsimp only
    split
    · exact .noteLeft _ (.noteRight _ (store_alike same))
    · exact create_alike same

/-- Reports through checks are alike. -/
theorem report_alike :
    Alike (report now event options request slot) (report now event others request slot) := by
  unfold report
  split
  · exact .done _
  · exact .noteLeft _ (.noteRight _ (submit_alike same))
  · exact discover_alike same

end CheckMode

section
variable {now : Timestamp} {event : Event} {options others : Options} {request : StatusRequest}
variable (same : options.SameButDiagnostics others)
include same

/-- Reports through commit statuses are alike, as they have nothing to do with logs. -/
theorem StatusMode.report_alike :
    Alike (StatusMode.report event options request) (StatusMode.report event others request) := by
  have status : status options request = status others request := by
    rw [StatusMode.status, StatusMode.status, CheckMode.checkName_eq same]
  unfold report
  rw [status]
  refine .ask (by simp [Call.kind]) fun reply => ?_
  cases reply with
  | error => exact .done _
  | ok =>
    refine .noteLeft _ (.noteRight _ ?_)
    unfold comment
    split
    · split
      · exact .done _
      · exact .ask (by simp [Call.kind]) fun reply => .done reply
    · exact .done _

/-- Reports are alike. -/
theorem Reconciler.report_alike (reconciler : Reconciler) :
    Alike (reconciler.report now event options request)
      (reconciler.report now event others request) := by
  have words : Conclusion.apply options request = Conclusion.apply others request := by
    simp only [Conclusion.apply, Conclusion.ofRequest, same.applicationName]
  unfold Reconciler.report
  split
  · rw [words]
    refine .noteLeft _ (.noteRight _ ?_)
    unfold submit
    split
    · exact (CheckMode.report_alike same).map _
    · exact (StatusMode.report_alike same).map _
  · exact .done _

end
/-! ## Sessions go the same way -/

/-- What a reconciler is told to do. -/
inductive Command where
  | claim (candidate : UInt64)
  | report (filing : Filing)

namespace Reconciler

/-- The episodes of a session in which all calls are answered by the same collaborators. -/
def conduct {World : Type} (answerer : Answerer Call Call.Reply World) :
    Reconciler → World → List Command → List Episode
  | _, _, [] => []
  | reconciler, world, .claim candidate :: rest =>
    reconciler.claimEpisode candidate ::
      conduct answerer (reconciler.claimEpisode candidate).after world rest
  | reconciler, world, .report filing :: rest =>
    let dialogue := reconciler.report filing.now filing.event filing.options filing.request
    reconciler.reportEpisode answerer world filing ::
      conduct answerer (reconciler.reportEpisode answerer world filing).after
        (dialogue.run answerer world).state rest

/-- What is conducted is a session. -/
theorem session_conduct {World : Type} (answerer : Answerer Call Call.Reply World)
    (reconciler : Reconciler) (world : World) (commands : List Command) :
    ∃ last, Session reconciler (reconciler.conduct answerer world commands) last := by
  induction commands generalizing reconciler world with
  | nil => exact ⟨reconciler, .nil reconciler⟩
  | cons command rest ih =>
    cases command with
    | claim candidate =>
      obtain ⟨last, session⟩ := ih (reconciler.claimEpisode candidate).after world
      exact ⟨last, .cons (Episode.genuine_iff.2 (.inl ⟨_, _, rfl⟩)) session⟩
    | report filing =>
      obtain ⟨last, session⟩ := ih (reconciler.reportEpisode answerer world filing).after _
      exact ⟨last, .cons (Episode.genuine_iff.2 (.inr ⟨_, _, _, _, _, rfl⟩)) session⟩

end Reconciler

/-- Whether filings differ at most in how diagnostics are found. -/
structure Filing.SameButDiagnostics (filing other : Filing) : Prop where
  now : filing.now = other.now
  event : filing.event = other.event
  request : filing.request = other.request
  options : filing.options.SameButDiagnostics other.options

/-- Whether commands differ at most in how diagnostics are found. -/
inductive Command.SameButDiagnostics : Command → Command → Prop
  | claim (candidate : UInt64) : SameButDiagnostics (.claim candidate) (.claim candidate)
  | report {filing other : Filing} (same : filing.SameButDiagnostics other) :
      SameButDiagnostics (.report filing) (.report other)

/-- Whether what was done came to the same, but for diagnostics. -/
inductive Deed.SameButDiagnostics : Deed → Deed → Prop
  | claim (candidate : UInt64) (won : Bool) :
      SameButDiagnostics (.claim candidate won) (.claim candidate won)
  | report {filing other : Filing} {turns others : List CallTurn}
      {result : Except Failure (Option CheckHandle)} (same : filing.SameButDiagnostics other)
      (calls : essence turns = essence others) :
      SameButDiagnostics (.report filing turns result) (.report other others result)

/-- Whether episodes start and end with the same reconciler and come to the same, but for diagnostics. -/
structure Episode.SameButDiagnostics (episode other : Episode) : Prop where
  before : episode.before = other.before
  deed : episode.deed.SameButDiagnostics other.deed
  after : episode.after = other.after

theorem Episode.SameButDiagnostics.essence_turns {episode other : Episode}
    (same : episode.SameButDiagnostics other) : essence episode.turns = essence other.turns := by
  obtain ⟨before, deed, after⟩ := episode
  obtain ⟨_, otherDeed, _⟩ := other
  cases same.deed with
  | claim => rfl
  | report _ calls => exact calls

namespace RunStore

/-- What calls do to the stored runs is all in their essence. -/
theorem afterTurns_essence (store : RunStore) (turns : List CallTurn) :
    store.afterTurns (essence turns) = store.afterTurns turns := by
  induction turns generalizing store with
  | nil => rfl
  | cons turn rest ih =>
    obtain ⟨question, answer⟩ := turn
    cases question with
    | logs => exact ih store
    | _ =>
      rw [essence_cons rfl]
      exact ih _

variable {episodes others : List Episode}

theorem after_eq_of_sameButDiagnostics
    (same : List.Forall₂ Episode.SameButDiagnostics episodes others) (store : RunStore) :
    store.after episodes = store.after others := by
  induction same generalizing store with
  | nil => rfl
  | @cons episode other _ _ first _ ih =>
    have step : store.afterTurns episode.turns = store.afterTurns other.turns := by
      rw [← afterTurns_essence, first.essence_turns, afterTurns_essence]
    rw [RunStore.after, RunStore.after, List.foldl_cons, List.foldl_cons, step]
    exact ih _

end RunStore

section
variable {Left Right : Type} {ours : Answerer Call Call.Reply Left}
  {theirs : Answerer Call Call.Reply Right} {Related : Left → Right → Prop}

/-- One report comes to the same, and leaves the collaborators related. -/
theorem Reconciler.reportEpisode_sameButDiagnostics (agree : Agree ours theirs Related) {here : Left}
    {there : Right} (related : Related here there) {filing other : Filing}
    (same : filing.SameButDiagnostics other) (reconciler : Reconciler) :
    (reconciler.reportEpisode ours here filing).SameButDiagnostics
        (reconciler.reportEpisode theirs there other) ∧
      Related
        ((reconciler.report filing.now filing.event filing.options filing.request).run ours here).state
        ((reconciler.report other.now other.event other.options other.request).run theirs there).state := by
  have alike : Alike (reconciler.report filing.now filing.event filing.options filing.request)
      (reconciler.report other.now other.event other.options other.request) := by
    rw [same.now, same.event, same.request]
    exact reconciler.report_alike same.options
  obtain ⟨result, calls, stay⟩ := alike.run agree related
  refine ⟨⟨rfl, ?_, congrArg reconciler.after result⟩, stay⟩
  unfold reportEpisode
  dsimp only
  rw [result]
  exact .report same calls

/-- Sessions come to the same, episode by episode. -/
theorem Reconciler.conduct_sameButDiagnostics (agree : Agree ours theirs Related) {here : Left}
    {there : Right} (related : Related here there) {commands others : List Command}
    (same : List.Forall₂ Command.SameButDiagnostics commands others) (reconciler : Reconciler) :
    List.Forall₂ Episode.SameButDiagnostics (reconciler.conduct ours here commands)
      (reconciler.conduct theirs there others) := by
  induction same generalizing reconciler here there with
  | nil => exact .nil
  | cons first _ ih =>
    cases first with
    | claim candidate =>
      exact .cons ⟨rfl, .claim candidate _, rfl⟩ (ih related _)
    | report filing =>
      obtain ⟨episode, stay⟩ := reconciler.reportEpisode_sameButDiagnostics agree related filing
      refine .cons episode ?_
      rw [← episode.after]
      exact ih stay _

/-- Two sessions with the same commands and the same collaborators, but for whether and how logs are
searched and what the logs are, go the same way: episode by episode the reconciler before and after it,
the result, and the calls and replies but for logs and annotations are the same, and so are the stored
runs at any time. -/
theorem Reconciler.diagnostics_only_enrich (agree : Agree ours theirs Related) {here : Left} {there : Right}
    (related : Related here there) {commands others : List Command}
    (same : List.Forall₂ Command.SameButDiagnostics commands others) (reconciler : Reconciler) :
    List.Forall₂ Episode.SameButDiagnostics (reconciler.conduct ours here commands)
        (reconciler.conduct theirs there others) ∧
      ∀ (store : RunStore) (count : Nat),
        store.after ((reconciler.conduct ours here commands).take count) =
          store.after ((reconciler.conduct theirs there others).take count) := by
  have episodes := reconciler.conduct_sameButDiagnostics agree related same
  refine ⟨episodes, fun store count => ?_⟩
  exact RunStore.after_eq_of_sameButDiagnostics (List.forall₂_take count episodes) store

/-- A failed run whose logs cannot be read is reported as if its logs were not searched. -/
theorem Reconciler.diagnostics_only_enrich_despite_unreadable_logs :
    let event : Event := ⟨"acme", "widgets", "0123abc", .push, none, 7⟩
    let run : Run := { name := "ci", namespaceName := "jobs" }
    let request : StatusRequest :=
      { runName := "ci", phase := .completed, outcome := .failure, run := some run }
    let plain : List Command := [.report ⟨.epoch, event, .default, request⟩, .claim 9]
    let searching : List Command :=
      [.report ⟨.epoch, event, Options.default.withErrorDetection "[", request⟩, .claim 9]
    let reconciler : Reconciler := { hasHosting := true }
    let left := reconciler.conduct Rehearsal.answerer {} plain
    let right := reconciler.conduct Rehearsal.answerer { failing := [.logs] } searching
    Rehearsal.SameButLogs {} { failing := [.logs] } ∧
      List.Forall₂ Command.SameButDiagnostics plain searching ∧
      (∃ turn ∈ right.flatMap Episode.turns, turn.readsLogs = true ∧ turn.failure? ≠ none) ∧
      List.Forall₂ Episode.SameButDiagnostics left right ∧
      ((RunStore.single run).after right).checkId? run.key = some 1000 := by
  intro event run request plain searching reconciler left right
  have worlds : Rehearsal.SameButLogs {} { failing := [.logs] } :=
    ⟨rfl, rfl, rfl, rfl, fun kind notLogs => by cases kind <;> first | rfl | exact absurd rfl notLogs⟩
  have commands : List.Forall₂ Command.SameButDiagnostics plain searching :=
    .cons (.report ⟨rfl, rfl, rfl, rfl, rfl⟩) (.cons (.claim 9) .nil)
  have reads : ∃ turn ∈ right.flatMap Episode.turns,
      turn.readsLogs = true ∧ turn.failure? ≠ none := by decide +kernel
  have known : ((RunStore.single run).after (left.take 2)).checkId? run.key = some 1000 := by
    decide +kernel
  obtain ⟨episodes, runs⟩ := reconciler.diagnostics_only_enrich Rehearsal.agree worlds commands
  rw [runs] at known
  exact ⟨worlds, commands, reads, episodes, known⟩

end
end CommitChecks

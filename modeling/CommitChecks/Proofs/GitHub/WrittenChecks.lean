import CommitChecks.Proofs.CheckMode.Contents
import CommitChecks.Proofs.CheckMode.Discovery
import CommitChecks.Proofs.GitHub.Register
import CommitChecks.Proofs.Session
import CommitChecks.Rehearsal

/-!
# Written checks are found again

A report gives the check that it creates or updates the name of its run, and the check that it updates
the words of its conclusion. The hosting service shows them to whoever lists the checks. So a later
report of a run of that name comes back to the check if its run has no label and the skip slot is
taken, and creates no other.
-/

namespace CommitChecks

namespace CheckMode

variable {now : Timestamp} {event : Event} {options : Options} {request : StatusRequest}
variable {slot : SkipSlot} {id : UInt64} {turns : List CallTurn}

/-! ## What a report finds -/

theorem Updated.exists_update {result : Except Failure CheckHandle}
    (updated : Updated now event options request id turns result) :
    ∃ turn ∈ turns, turn.question.kind = .update ∧ turn.question.checkId? = some id := by
  cases updated <;> simp [Call.kind, Call.checkId?]

/-- A report that knows its check updates it, unless a patch fails. -/
theorem Stored.exists_update {result : Except Failure CheckHandle}
    (stored : Stored now event options request id turns result)
    (succeeds : ∀ turn ∈ turns, turn.question.kind = .patch → turn.failure? = none) :
    ∃ turn ∈ turns, turn.question.kind = .update ∧ turn.question.checkId? = some id := by
  cases stored with
  | runless _ updated => exact updated.exists_update
  | unpatched _ failure =>
    have succeeded := succeeds _ List.mem_cons_self rfl
    rw [Turn.failure?] at succeeded
    contradiction
  | patched _ updated =>
    obtain ⟨turn, member, updates⟩ := updated.exists_update
    exact ⟨turn, List.mem_cons_of_mem _ member, updates⟩

/-- A report whose search comes to a check goes on to store it. -/
theorem Reported.of_choice {ended : Report CheckHandle}
    (reported : Reported now event options request slot turns ended)
    (unlabelled : storedId request = .ok none) {listing : List ExistingCheck}
    (lists : ∀ turn ∈ turns, turn.question.kind = .list →
      turn.failure? = none ∧ turn.listed = listing) {reason : Reason} {after : SkipSlot}
    (choice : choose request.runName slot listing = (some (id, reason), after)) :
    ∃ first rest, turns = first :: rest ∧ first.question.kind = .list ∧
      Stored now event options request id rest ended.result := by
  obtain ⟨reply, rest, rfl, goesOn⟩ := reported.of_unlabelled unlabelled
  obtain ⟨succeeds, shown⟩ := lists _ List.mem_cons_self rfl
  refine ⟨_, rest, rfl, rfl, ?_⟩
  cases reply with
  | error failure => exact nomatch succeeds
  | ok checks =>
    obtain rfl : checks = listing := shown
    obtain ⟨check, chosen, rfl, -⟩ := find?_of_choose choice
    have usable := usable_of_find? chosen
    cases goesOn checks rfl with
    | reused first stored =>
      obtain rfl := Option.some.inj (chosen.symm.trans first)
      exact stored
    | renewed free => exact absurd usable (free check (List.mem_of_find?_eq_some chosen))

end CheckMode

namespace GitHub

/-! ## What is read back -/

/-- How the calls of a report leave a check: created and not updated, or updated. -/
inductive Leaves (filing : Filing) (turns : List CallTurn) : ExistingCheck → Prop
  | created {id : UInt64} (creates : ∃ turn ∈ turns, turn.createdId? = some id)
      (unupdated : ∀ turn ∈ turns, turn.updatedId? = none) :
      Leaves filing turns ⟨id, some filing.request.runName, none, none⟩
  | updated {id : UInt64} (updates : ∃ turn ∈ turns, turn.updatedId? = some id) :
      Leaves filing turns ⟨id, some filing.request.runName,
        some (Conclusion.ofRequest filing.options filing.request).title,
        some (Conclusion.ofRequest filing.options filing.request).summary⟩

variable {episode : Episode} {filing : Filing} {records : List CheckRecord}
variable {turns rest : List CallTurn} {check : ExistingCheck}

theorem Leaves.externalId_eq (leaves : Leaves filing turns check) :
    check.externalId = some filing.request.runName := by
  cases leaves <;> rfl

/-- An update that a report makes gives its check the name of the run and the words of its conclusion. -/
theorem contents_of_updatedId? (genuine : episode.Genuine) (given : episode.filing? = some filing)
    (named : filing.request.runName ≠ "") {event : Event} {id : UInt64} {contents : CheckUpdate}
    {reply : Except Failure Unit} (member : ⟨.update event id contents, reply⟩ ∈ episode.turns) :
    contents.externalId = some filing.request.runName ∧
      contents.output.title = (Conclusion.ofRequest filing.options filing.request).title ∧
      contents.output.summary = (Conclusion.ofRequest filing.options filing.request).summary := by
  obtain ⟨ended, -, reported⟩ := genuine.reported_of_mem given member (by simp [Call.kind])
  obtain rfl := reported.of_update member rfl
  exact ⟨if_neg named, rfl, rfl⟩

/-- A report makes every kind of call at most once. -/
theorem nodup_kinds (genuine : episode.Genuine) (given : episode.filing? = some filing)
    {turn : CallTurn} (member : turn ∈ episode.turns)
    (kind : turn.question.kind ∉ [Call.Kind.status, .comment]) :
    (episode.turns.map fun turn => turn.question.kind).Nodup := by
  obtain ⟨ended, -, reported⟩ := genuine.reported_of_mem given member kind
  exact reported.kinds.nodup (by decide)

/-- What a report leaves in the register, whatever calls it still has to make. -/
theorem exists_record_of_leaves (genuine : episode.Genuine) (given : episode.filing? = some filing)
    (named : filing.request.runName ≠ "") (split : episode.turns = turns ++ rest)
    (keeps : Register.Keeps records turns) (leaves : Leaves filing turns check) :
    ∃ record ∈ Register.afterTurns records turns, record.listed = check := by
  cases leaves with
  | @created id creates unupdated =>
    obtain ⟨turn, member, creates⟩ := creates
    obtain ⟨before, after, rfl⟩ := List.append_of_mem member
    obtain ⟨event, new, rfl⟩ := Turn.eq_of_createdId? creates
    have among : ⟨.create event new, .ok id⟩ ∈ episode.turns := by simp [split]
    have same : new.externalId = filing.request.runName := genuine.externalId?_eq given among rfl
    refine ⟨_, Register.mem_afterTurns_cons Register.mem_afterTurn_of_create ?_, ?_⟩
    · intro later member
      rw [unupdated later (by simp [member])]
      exact nofun
    · rw [same]
      exact CheckRecord.listed_of_ne_empty named id none none
  | @updated id updates =>
    obtain ⟨turn, member, updates⟩ := updates
    obtain ⟨before, after, rfl⟩ := List.append_of_mem member
    obtain ⟨event, contents, rfl⟩ := Turn.eq_of_updatedId? updates
    have among : ⟨.update event id contents, .ok ()⟩ ∈ episode.turns := by simp [split]
    obtain ⟨name, title, summary⟩ := contents_of_updatedId? genuine given named among
    have allows := (Register.keeps_append.1 keeps).2.1
    refine ⟨_, Register.mem_afterTurns_cons (Register.mem_afterTurn_of_update allows name) ?_, ?_⟩
    · -- The update is the only one of the report, so none follows it.
      intro later member updates
      obtain ⟨event, contents, rfl⟩ := Turn.eq_of_updatedId? updates
      have distinct := nodup_kinds genuine given among (by simp [Call.kind])
      rw [split, List.append_assoc, List.map_append, List.cons_append, List.map_cons] at distinct
      refine (List.nodup_cons.1 (List.nodup_append.1 distinct).2.1).1 ?_
      exact List.mem_map.2 ⟨_, List.mem_append_left _ member, rfl⟩
    · rw [title, summary]
      exact CheckRecord.listed_of_ne_empty named id _ _

/-! ## Coming back -/

/-- Whether an episode is a report of a run of that name, which has no label, and searches a listing
while the skip slot is taken. -/
structure Searches (name : String) (listing : List ExistingCheck) (episode : Episode) : Prop where
  given : ∃ filing, episode.filing? = some filing ∧ 0 < filing.event.installationId ∧
    filing.request.runName = name ∧ filing.request.run.bind Run.checkIdText = none
  hosted : episode.before.hasHosting = true
  taken : episode.before.slot.claimed ≠ none
  lists : ∀ turn ∈ episode.turns, turn.question.kind = .list →
    turn.failure? = none ∧ turn.listed = listing

/-- Whether an episode stores and updates a check and no other, creates none, and gets to update the check
unless a patch fails. -/
structure ComesBackTo (id : UInt64) (episode : Episode) : Prop where
  only : CarriesOnly id episode.turns
  uncreated : ∀ turn ∈ episode.turns, turn.question.kind ≠ .create
  updates : (∀ turn ∈ episode.turns, turn.question.kind = .patch → turn.failure? = none) →
    ∃ turn ∈ episode.turns, turn.question.kind = .update ∧ turn.question.checkId? = some id

/-- A report comes back to the first listed check with the name of its run. -/
theorem Searches.comesBackTo {name : String} {before after : List ExistingCheck}
    (searches : Searches name (before ++ check :: after) episode) (genuine : episode.Genuine)
    (others : ∀ other ∈ before, other.externalId ≠ some name)
    (named : check.externalId = some name) : ComesBackTo check.id episode := by
  obtain ⟨filing, given, installed, rfl, unlabelled⟩ := searches.given
  obtain ⟨ended, -, reported⟩ :=
    genuine.reported_of_installed given searches.hosted (decide_eq_true installed)
  have taken : episode.before.slot ≠ .empty := fun free => searches.taken (by rw [free]; rfl)
  obtain ⟨first, rest, whole, lists, stored⟩ := reported.of_choice
    (CheckMode.storedId_eq_none_iff.2 unlabelled) searches.lists
    (CheckMode.choose_append_cons taken others named)
  refine ⟨?_, ?_, fun succeeds => ?_⟩
  · rw [whole]
    exact List.forall_mem_cons.2 ⟨by simp [lists], stored.carriesOnly⟩
  · rw [whole]
    refine List.forall_mem_cons.2 ⟨by simp [lists], fun turn member creates => ?_⟩
    exact Turn.not_mem_of_kinds stored.kinds (by simp [creates]) member
  · rw [whole] at succeeds ⊢
    obtain ⟨turn, member, updates⟩ := stored.exists_update (List.forall_mem_cons.1 succeeds).2
    exact ⟨turn, List.mem_cons_of_mem _ member, updates⟩

/-- A check that a report has created or updated is read back, off every page that shows it, under the
name of the run, and with the words of the report once it is updated. As long as nobody else updates it,
a later report of a run of that name which has no label, while the skip slot is taken, comes back to the
check if no check of that name is listed before it. -/
theorem written_checks_are_found_again (genuine : episode.Genuine)
    (given : episode.filing? = some filing) (named : filing.request.runName ≠ "")
    (split : episode.turns = turns ++ rest) (unique : (records.map CheckRecord.id).Nodup)
    (keeps : Register.Keeps records turns) (leaves : Leaves filing turns check) :
    ShowsAs (Register.afterTurns records turns) check ∧
    ∀ between later before found after, Register.Keeps (Register.afterTurns records turns) between →
      (∀ turn ∈ between, turn.updatedId? ≠ some check.id) →
      ReadFrom (Register.afterTurns records (turns ++ between)) (before ++ found :: after) →
      found.id = check.id → (∀ other ∈ before, other.externalId ≠ some filing.request.runName) →
      later.Genuine → Searches filing.request.runName (before ++ found :: after) later →
      found = check ∧ ComesBackTo check.id later := by
  obtain ⟨record, member, rfl⟩ := exists_record_of_leaves genuine given named split keeps leaves
  have distinct := Register.nodup_afterTurns keeps unique
  refine ⟨showsAs_of_mem distinct member, ?_⟩
  intro between later before found after keepsOn kept read same others genuineToo searches
  have stays : record ∈ Register.afterTurns records (turns ++ between) := by
    rw [Register.afterTurns, List.foldl_append]
    exact Register.mem_afterTurns member kept
  have distinct : ((Register.afterTurns records (turns ++ between)).map CheckRecord.id).Nodup :=
    Register.nodup_afterTurns (Register.keeps_append.2 ⟨keeps, keepsOn⟩) unique
  have eq : found = record.listed := by
    have listed : found ∈ before ++ found :: after := by simp
    obtain ⟨other, among, rfl⟩ := read.exists_record listed
    rw [List.inj_on_of_nodup_map distinct among stays same]
  rw [eq] at searches ⊢
  exact ⟨rfl, searches.comesBackTo genuineToo others leaves.externalId_eq⟩

/-- A run creates its check and updates it; another run has taken the skip slot by the time it is reported
again, without a label. -/
theorem written_checks_are_found_again_after_update :
    let event : Event := ⟨"acme", "widgets", "0123abc", .push, none, 7⟩
    let filing : Filing := ⟨.epoch, event, .default,
      { runName := "ci", phase := .inProgress, outcome := .pending }⟩
    let writing := ({ hasHosting := true } : Reconciler).reportEpisode Rehearsal.answerer {} filing
    let check : ExistingCheck :=
      ⟨1000, some "ci", some "CI has Started", some "Pipelines as Code CI is running."⟩
    let world : Rehearsal := { checks := [check] }
    let returning := ({ hasHosting := true, slot := ⟨some 9⟩ } : Reconciler).reportEpisode
      Rehearsal.answerer world filing
    writing.Genuine ∧ Register.Keeps [] writing.turns ∧ Leaves filing writing.turns check ∧
      ShowsAs (Register.afterTurns [] writing.turns) check ∧ returning.Genuine ∧
      Searches "ci" [check] returning ∧ ComesBackTo 1000 returning := by
  intro event filing writing check world returning
  have genuine : writing.Genuine := Episode.genuine_iff.2 (.inr ⟨_, _, _, _, _, rfl⟩)
  have genuineToo : returning.Genuine := Episode.genuine_iff.2 (.inr ⟨_, _, _, _, _, rfl⟩)
  have keeps : Register.Keeps [] writing.turns := by decide +kernel
  have leaves : Leaves filing writing.turns check := .updated (by decide +kernel)
  have searches : Searches "ci" [check] returning :=
    ⟨⟨filing, rfl, by decide, rfl, rfl⟩, rfl, nofun, by decide +kernel⟩
  have read : ReadFrom (Register.afterTurns [] (writing.turns ++ [])) [check] := by
    have shows := pageShows_pageDocument 1 (Register.afterTurns [] (writing.turns ++ []))
    have page := ReadFrom.page (List.Subset.refl _) shows shows.decode .nil
    have same : (Register.afterTurns [] (writing.turns ++ [])).map CheckRecord.listed = [check] := by
      decide +kernel
    rwa [same] at page
  have unique : (([] : List CheckRecord).map CheckRecord.id).Nodup := List.nodup_nil
  obtain ⟨shown, back⟩ := written_checks_are_found_again genuine rfl (by decide)
    (List.append_nil writing.turns).symm unique keeps leaves
  exact ⟨genuine, keeps, leaves, shown, genuineToo, searches,
    (back [] returning [] check [] trivial (by simp) read rfl (by simp) genuineToo searches).2⟩

end GitHub
end CommitChecks

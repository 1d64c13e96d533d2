import CommitChecks.Proofs.Session.Hosting
import CommitChecks.Proofs.Session.RunStore
import CommitChecks.Proofs.Session.SkipSlot

/-!
# Who updates a check

A run has a claim on the checks that were first known under its name and on the check that it took
over through the skip slot. Reports write the name of their run to no check but one that the run has a
claim on, and store no other on the run, so what a later report finds by name or on a label is again
one that its run has a claim on.
-/

namespace CommitChecks

open Hosting

/-- The name of the run that an episode reports. -/
def Episode.runName? (episode : Episode) : Option String :=
  episode.filing?.map fun filing => filing.request.runName

/-- Whether the run object of a report, if there is one, goes by the name in the report. -/
def Episode.NamesItsRun (episode : Episode) : Prop :=
  ∀ filing, episode.filing? = some filing → ∀ run, filing.request.run = some run →
    run.name = filing.request.runName

/-- Whether an episode gives claims only to names that have them: those under which it creates checks,
and that of a run which takes over a check. -/
structure Episode.Respects (owns : UInt64 → String → Prop) (episode : Episode) : Prop where
  created : ∀ turn ∈ episode.turns, ∀ id name, turn.createdId? = some id →
    turn.question.externalId? = some name → owns id name
  filled : ∀ id name, episode.Fills id → episode.runName? = some name → owns id name

namespace Episode.Genuine

variable {episode : Episode} {filing : Filing} {owns : UInt64 → String → Prop} {store : RunStore}
  {checks : List ExistingCheck}

/-- A report carries only checks that its run has a claim on. -/
theorem owns_carried (genuine : episode.Genuine) (given : episode.filing? = some filing)
    (named : episode.NamesItsRun) (respects : episode.Respects owns)
    (supplies : store.Supplies episode) (replies : Replies checks episode.turns)
    (labels : store.Owned owns) (names : Owned owns checks) {turn : CallTurn}
    (member : turn ∈ episode.turns) {id : UInt64} (carries : turn.question.checkId? = some id) :
    owns id filing.request.runName := by
  cases genuine.origin given member carries with
  | label stored =>
    obtain ⟨run, present, holds⟩ := Option.bind_eq_some_iff.1 stored
    have reported : episode.run? = some run := by rw [run?, given, Option.bind_some, present]
    have known : store.checkId? run.key = some id := by
      rw [RunStore.checkId?, supplies run reported, Option.bind_some, holds]
    exact named filing given run present ▸ labels run.key id known
  | @creation turn member created =>
    obtain ⟨name, gives⟩ := Turn.exists_externalId?_of_createdId? created
    exact genuine.externalId?_eq given member gives ▸ respects.created turn member id name created gives
  | @name turn check member listed same carriesName =>
    -- The listing is the first call, so it shows the checks as they were before the report.
    obtain ⟨rest, whole⟩ := List.head?_eq_some_iff.1 (genuine.head?_of_listed member listed)
    rw [whole] at replies
    exact same ▸ names check (replies.1.1 listed) _ carriesName
  | claim empty filled =>
    exact respects.filled id _ ⟨empty, filled⟩ (by rw [runName?, given, Option.map_some])

end Episode.Genuine

namespace Session

variable {first last : Reconciler} {episodes : List Episode} {owns : UInt64 → String → Prop}
  {store : RunStore} {checks : List ExistingCheck}

/-- Over a whole session, reports carry only checks that their runs have a claim on. -/
theorem owns_carried (session : Session first episodes last)
    (named : ∀ episode ∈ episodes, episode.NamesItsRun)
    (respects : ∀ episode ∈ episodes, episode.Respects owns) (serves : store.Serves episodes)
    (replies : Replies checks (episodes.flatMap Episode.turns)) (labels : store.Owned owns)
    (names : Owned owns checks) :
    ∀ episode ∈ episodes, ∀ filing, episode.filing? = some filing → ∀ turn ∈ episode.turns,
      ∀ id, turn.question.checkId? = some id → owns id filing.request.runName := by
  induction session generalizing store checks with
  | nil => simp
  | @cons episode episodes last genuine rest ih =>
    obtain ⟨namesIt, named⟩ := List.forall_mem_cons.1 named
    obtain ⟨respectsIt, respects⟩ := List.forall_mem_cons.1 respects
    obtain ⟨supplies, serves⟩ := serves
    rw [List.flatMap_cons, replies_append] at replies
    have carried : ∀ filing, episode.filing? = some filing → ∀ turn ∈ episode.turns,
        ∀ id, turn.question.checkId? = some id → owns id filing.request.runName :=
      fun filing given turn member id carries =>
        genuine.owns_carried given namesIt respectsIt supplies replies.1 labels names member carries
    refine List.forall_mem_cons.2 ⟨carried, ih named respects serves replies.2 ?_ ?_⟩
    · refine RunStore.owned_afterTurns labels fun turn member run patch asks => ?_
      obtain ⟨filing, given⟩ := Episode.exists_filing_of_mem member
      obtain ⟨reported, -, id, logUrl, rfl, -⟩ := genuine.of_patch member asks
      rw [Episode.run?, given, Option.bind_some] at reported
      refine ⟨id, logUrl, rfl, namesIt filing given run reported ▸ carried filing given turn member id ?_⟩
      rw [asks, Call.checkId?, MetadataPatch.checkId?_forCheck]
    · refine Hosting.owned_afterTurns names fun turn member id name gives on => ?_
      obtain ⟨filing, given⟩ := Episode.exists_filing_of_mem member
      obtain rfl := genuine.externalId?_eq given member gives
      exact on.elim (fun created => respectsIt.created turn member id _ created gives)
        (carried filing given turn member id)

/-- Whether a run of that name sends an update to a check. -/
def UpdatedBy (episodes : List Episode) (id : UInt64) (name : String) : Prop :=
  ∃ episode ∈ episodes, episode.runName? = some name ∧
    ∃ turn ∈ episode.turns, turn.question.kind = .update ∧ turn.question.checkId? = some id

/-- Whether a run of that name fills the skip slot with a check. -/
def FilledBy (episodes : List Episode) (id : UInt64) (name : String) : Prop :=
  ∃ episode ∈ episodes, episode.runName? = some name ∧ episode.Fills id

/-- The slot is filled by one run at most, and keeps the check. -/
theorem filledBy_unique (session : Session first episodes last) {id other : UInt64}
    {name otherName : String} (filled : FilledBy episodes id name)
    (also : FilledBy episodes other otherName) : id = other ∧ name = otherName := by
  obtain ⟨episode, member, named, fills⟩ := filled
  obtain ⟨second, among, otherNamed, otherFills⟩ := also
  obtain ⟨earlier, later, rfl⟩ := List.append_of_mem member
  have same : second = episode := by
    by_contra differs
    have apart : second ∈ earlier ++ later := by
      simpa [differs] using among
    exact session.not_fills_of_fills fills second apart other otherFills
  obtain rfl := same
  exact ⟨Option.some.inj (SkipSlot.mk.inj (fills.2.symm.trans otherFills.2)),
    Option.some.inj (named.symm.trans otherNamed)⟩

theorem claimed_of_filledBy (session : Session first episodes last) {id : UInt64} {name : String}
    (filled : FilledBy episodes id name) : last.slot.claimed = some id := by
  obtain ⟨episode, member, -, fills⟩ := filled
  obtain ⟨earlier, later, rfl⟩ := List.append_of_mem member
  rw [(session.cut.2.2.of_full fills.2).1]

/-- Whether a run of that name has a claim on a check, which was first known under that name or was
taken over by the run. -/
def HasClaim (checks : List ExistingCheck) (episodes : List Episode) (id : UInt64)
    (name : String) : Prop :=
  FirstKnownAs checks (episodes.flatMap Episode.turns) id name ∨ FilledBy episodes id name

theorem respects_hasClaim {episode : Episode} (member : episode ∈ episodes) :
    episode.Respects (HasClaim checks episodes) where
  created turn among _ _ created gives :=
    .inl (.inr ⟨turn, List.mem_flatMap.2 ⟨episode, member, among⟩, created, gives⟩)
  filled _ _ fills reported := .inr ⟨episode, member, reported, fills⟩

theorem hasClaim_of_updatedBy (session : Session first episodes last)
    (named : ∀ episode ∈ episodes, episode.NamesItsRun) (serves : store.Serves episodes)
    (unlabelled : ∀ key, store.checkIdText? key = none)
    (replies : Replies checks (episodes.flatMap Episode.turns)) {id : UInt64} {name : String}
    (updated : UpdatedBy episodes id name) : HasClaim checks episodes id name := by
  have labels : store.Owned (HasClaim checks episodes) := by
    intro key id known
    obtain ⟨text, label⟩ := RunStore.checkIdText?_of_checkId? known
    rw [unlabelled key] at label
    contradiction
  have names : Owned (HasClaim checks episodes) checks := fun check member name carries =>
    .inl (.inl ⟨check, member, rfl, carries⟩)
  obtain ⟨episode, member, reported, turn, among, -, carries⟩ := updated
  obtain ⟨filing, given, rfl⟩ := Option.map_eq_some_iff.1 reported
  exact session.owns_carried named (fun _ => respects_hasClaim) serves replies labels names
    episode member filing given turn among id carries

/-- Against a hosting service that keeps its checks, and with reports that are given the stored runs,
none of which has a label at first, a check is updated only by the run under whose name it was first
known and by the run that filled the skip slot with it. Each of the two is a single run, if there is
one. So no more than one check of a session is updated by different runs, by no more than two, and it
is the one in the skip slot. -/
theorem checks_are_updated_by_owners (session : Session first episodes last)
    (named : ∀ episode ∈ episodes, episode.NamesItsRun) (serves : store.Serves episodes)
    (unlabelled : ∀ key, store.checkIdText? key = none)
    (unique : (checks.map ExistingCheck.id).Nodup)
    (replies : Replies checks (episodes.flatMap Episode.turns)) :
    (∀ id name, UpdatedBy episodes id name →
      FirstKnownAs checks (episodes.flatMap Episode.turns) id name ∨ FilledBy episodes id name) ∧
    (∀ id name other, FirstKnownAs checks (episodes.flatMap Episode.turns) id name →
      FirstKnownAs checks (episodes.flatMap Episode.turns) id other → name = other) ∧
    (∀ id other name otherName, FilledBy episodes id name → FilledBy episodes other otherName →
      id = other ∧ name = otherName) ∧
    (∀ id name other, UpdatedBy episodes id name → UpdatedBy episodes id other → name ≠ other →
      last.slot.claimed = some id) ∧
    ∀ id name second third, UpdatedBy episodes id name → UpdatedBy episodes id second →
      UpdatedBy episodes id third → name = second ∨ name = third ∨ second = third := by
  have claims : ∀ id name, UpdatedBy episodes id name → HasClaim checks episodes id name :=
    fun id name => session.hasClaim_of_updatedBy named serves unlabelled replies
  have firstKnown : ∀ id name other, FirstKnownAs checks (episodes.flatMap Episode.turns) id name →
      FirstKnownAs checks (episodes.flatMap Episode.turns) id other → name = other :=
    fun id name other => firstKnownAs_unique unique replies
  have filled : ∀ id other name otherName, FilledBy episodes id name →
      FilledBy episodes other otherName → id = other ∧ name = otherName :=
    fun id other name otherName => session.filledBy_unique
  refine ⟨claims, firstKnown, filled, ?_, ?_⟩
  · intro id name other updated also differ
    obtain known | took := claims id name updated
    · obtain alsoKnown | took := claims id other also
      · exact absurd (firstKnown id name other known alsoKnown) differ
      · exact session.claimed_of_filledBy took
    · exact session.claimed_of_filledBy took
  · intro id name second third updated again anew
    -- Of three claims, two are of the same sort, and each sort admits a single name.
    obtain known | took := claims id name updated <;>
      obtain known' | took' := claims id second again <;>
      obtain known'' | took'' := claims id third anew
    · exact .inl (firstKnown id name second known known')
    · exact .inl (firstKnown id name second known known')
    · exact .inr (.inl (firstKnown id name third known known''))
    · exact .inr (.inr (filled id id second third took' took'').2)
    · exact .inr (.inr (firstKnown id second third known' known''))
    · exact .inr (.inl (filled id id name third took took'').2)
    · exact .inl (filled id id name second took took').2
    · exact .inl (filled id id name second took took').2

/-- A run reports its check as skipped, and another run takes that check over. -/
theorem checks_are_updated_by_owners_of_skipped_check :
    let event : Event := ⟨"acme", "widgets", "0123abc", .push, none, 7⟩
    let run : Run := { name := "ci", namespaceName := "jobs" }
    let skipping : Filing := ⟨.epoch, event, .default,
      { runName := "docs", phase := .completed, outcome := .skipped }⟩
    let starting : Filing := ⟨.epoch, event, .default,
      { runName := "ci", phase := .inProgress, outcome := .pending, run := some run }⟩
    let world : Rehearsal := { checks := [⟨5, some "docs", none, none⟩], keepsAccount := true }
    let reconciler : Reconciler := { hasHosting := true }
    let left := reconciler.reportEpisode Rehearsal.answerer world skipping
    let world' : Rehearsal := { world with checks := afterTurns world.checks left.turns }
    let taken := left.after.reportEpisode Rehearsal.answerer world' starting
    Session reconciler [left, taken] taken.after ∧
      (∀ episode ∈ [left, taken], episode.NamesItsRun) ∧
      (RunStore.single run).Serves [left, taken] ∧
      (∀ key, (RunStore.single run).checkIdText? key = none) ∧
      (world.checks.map ExistingCheck.id).Nodup ∧
      Replies world.checks ([left, taken].flatMap Episode.turns) ∧
      UpdatedBy [left, taken] 5 "docs" ∧ UpdatedBy [left, taken] 5 "ci" ∧
      taken.after.slot.claimed = some 5 := by
  intro event run skipping starting world reconciler left world' taken
  have session : Session reconciler [left, taken] taken.after :=
    .cons (Episode.genuine_iff.2 (.inr ⟨_, _, _, _, _, rfl⟩))
      (.cons (Episode.genuine_iff.2 (.inr ⟨_, _, _, _, _, rfl⟩)) (.nil _))
  have named : ∀ episode ∈ [left, taken], episode.NamesItsRun := by
    refine List.forall_mem_cons.2 ⟨?_, List.forall_mem_singleton.2 ?_⟩
    · rintro _ ⟨⟩ _ ⟨⟩
    · rintro _ ⟨⟩ _ ⟨⟩
      rfl
  have serves : (RunStore.single run).Serves [left, taken] := by
    refine ⟨?_, ?_, trivial⟩
    · rintro _ ⟨⟩
    · rintro _ ⟨⟩
      rfl
  have unlabelled : ∀ key, (RunStore.single run).checkIdText? key = none := by
    intro key
    unfold RunStore.checkIdText? RunStore.single
    dsimp only
    split <;> rfl
  have unique : (world.checks.map ExistingCheck.id).Nodup := by decide
  have replies : Replies world.checks ([left, taken].flatMap Episode.turns) := by decide +kernel
  have byDocs : UpdatedBy [left, taken] 5 "docs" :=
    ⟨left, List.mem_cons_self, rfl, by decide +kernel⟩
  have byCi : UpdatedBy [left, taken] 5 "ci" :=
    ⟨taken, List.mem_cons_of_mem _ List.mem_cons_self, rfl, by decide +kernel⟩
  obtain ⟨-, -, -, claimed, -⟩ :=
    checks_are_updated_by_owners session named serves unlabelled unique replies
  exact ⟨session, named, serves, unlabelled, unique, replies, byDocs, byCi,
    claimed 5 "docs" "ci" byDocs byCi (by decide)⟩

end Session
end CommitChecks

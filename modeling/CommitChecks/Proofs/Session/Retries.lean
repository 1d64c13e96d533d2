import CommitChecks.Proofs.Session.StoredCheck

/-!
# Retries of a report

A report that cannot store the identifier of its check fails before it updates the check, and leaves
behind what it did to the skip slot and to the hosting service. When it is tried again, the skip slot
may be full, and the listing may show the check that was created. Trials of one report go through at
most two stages: as long as no check was created or found by name, the search is over the listing as
it was at first; from then on it comes to that very check, wherever the created check is listed.
-/

namespace CommitChecks

open CheckMode

/-- The check that a call created, as it is listed until it is updated. -/
def Turn.createdCheck? : CallTurn → Option ExistingCheck
  | ⟨.create _ check, .ok id⟩ => some ⟨id, some check.externalId, none, none⟩
  | _ => none

theorem Turn.isSome_createdCheck?_iff {turn : CallTurn} :
    turn.createdCheck?.isSome = true ↔ turn.question.kind = .create ∧ turn.failure? = none := by
  obtain ⟨question, answer⟩ := turn
  cases question <;> cases answer <;> simp [createdCheck?, Call.kind, failure?]

theorem Turn.createdId?_eq (turn : CallTurn) :
    turn.createdId? = turn.createdCheck?.map ExistingCheck.id := by
  obtain ⟨question, answer⟩ := turn
  cases question <;> cases answer <;> rfl

theorem Turn.createdCheck?_eq_none {turn : CallTurn} (other : turn.question.kind ≠ .create) :
    turn.createdCheck? = none := by
  rw [← Option.not_isSome_iff_eq_none, isSome_createdCheck?_iff]
  exact fun creates => other creates.1

namespace Episode

/-- The checks that an episode creates. -/
def created (episode : Episode) : List ExistingCheck :=
  episode.turns.filterMap Turn.createdCheck?

/-- Whether an episode is a trial of a report in which checks can be listed and created. Trials differ
in the time at which they are made. -/
structure Tries (filing : Filing) (episode : Episode) : Prop where
  given : ∃ now, episode.filing? = some { filing with now := now }
  succeeds : ∀ turn ∈ episode.turns, turn.question.kind = .list ∨ turn.question.kind = .create →
    turn.failure? = none

/-- Whether an episode stores a check on its run, and stores, updates and creates no other. -/
structure Carries (id : UInt64) (episode : Episode) : Prop where
  stores : ∃ turn ∈ episode.turns, turn.question.kind = .patch ∧ turn.question.checkId? = some id
  only : CarriesOnly id episode.turns
  created : ∀ turn ∈ episode.turns, ∀ other, turn.createdId? = some other → other = id

/-- Whether an episode comes to a check by creating it, or by its name without taking the skip slot. -/
def Settles (name : String) (id : UInt64) (episode : Episode) : Prop :=
  (∃ turn ∈ episode.turns, turn.createdId? = some id) ∨
    (∃ turn ∈ episode.turns, turn.question.checkId? = some id) ∧ ¬ episode.Fills id ∧
      ∃ turn ∈ episode.turns, ∃ check ∈ turn.listed, check.id = id ∧ check.externalId = some name

variable {episode : Episode} {filing : Filing} {name : String} {id other : UInt64}

theorem Carries.eq_of_settles (carries : episode.Carries id) (settles : episode.Settles name other) :
    other = id := by
  obtain ⟨turn, member, created⟩ | ⟨⟨turn, member, carried⟩, -⟩ := settles
  · exact carries.created turn member other created
  · exact carries.only.eq member carried

/-- An episode that takes the skip slot with its check, and creates none, settles none. -/
theorem Carries.not_settles (carries : episode.Carries id) (uncreated : episode.created = [])
    (fills : episode.Fills id) : ¬ episode.Settles name other := by
  rintro (⟨turn, member, created⟩ | ⟨⟨turn, member, carried⟩, unfilled, -⟩)
  · rw [Turn.createdId?_eq, List.filterMap_eq_nil_iff.1 uncreated turn member] at created
    exact nomatch created
  · exact unfilled (carries.only.eq member carried ▸ fills)

/-- If all creations succeed, there are as many of them as there are new checks. -/
theorem Tries.countP_create (tries : episode.Tries filing) :
    episode.turns.countP (fun turn => turn.question.kind = .create) = episode.created.length := by
  rw [created, List.length_filterMap_eq_countP]
  refine List.countP_congr fun turn member => ?_
  rw [decide_eq_true_eq, Turn.isSome_createdCheck?_iff]
  exact ⟨fun creates => ⟨creates, tries.succeeds turn member (.inr creates)⟩, And.left⟩

/-- If all creations succeed and there is no new check, there is no creation. -/
theorem Tries.kind_ne_create (tries : episode.Tries filing) (uncreated : episode.created = []) :
    ∀ turn ∈ episode.turns, turn.question.kind ≠ .create := by
  have none := tries.countP_create
  rw [uncreated, List.length_nil, List.countP_eq_zero] at none
  exact fun turn member creates => none turn member (decide_eq_true creates)

end Episode

/-! ## The ways of a trial -/

/-- How a trial can go, by what the search of a listing comes to. -/
inductive Tried (name : String) (listing : List ExistingCheck) (id : UInt64) (episode : Episode) : Prop
  | chosen {reason : Reason}
      (choice : choose name episode.before.slot listing = (some (id, reason), episode.after.slot))
      (uncreated : episode.created = [])
  | created
      (choice : choose name episode.before.slot listing = (none, episode.before.slot))
      (kept : episode.after.slot = episode.before.slot)
      (created : episode.created = [⟨id, some name, none, none⟩])

section
variable {now : Timestamp} {event : Event} {options : Options} {request : StatusRequest}
variable {slot after : SkipSlot} {id : UInt64} {turns search rest : List CallTurn}
variable {ended : Report CheckHandle} {result : Except Failure CheckHandle}

/-- A report whose run has no label, and in which checks can be listed and created, finds a check and
goes on to store it. -/
theorem CheckMode.Reported.exists_found
    (reported : Reported now event options request slot turns ended)
    (unlabelled : storedId request = .ok none)
    (succeeds : ∀ turn ∈ turns, turn.question.kind = .list ∨ turn.question.kind = .create →
      turn.failure? = none) :
    ∃ search rest id, turns = search ++ rest ∧
      Found now event options request slot search id ended.slot ∧
        Stored now event options request id rest ended.result := by
  cases reported with
  | unreadable label => rw [unlabelled] at label; exact nomatch label
  | labelled label => rw [unlabelled] at label; exact nomatch label
  | unlisted => exact nomatch succeeds _ List.mem_cons_self (.inl rfl)
  | uncreated => exact nomatch succeeds _ (List.mem_cons_of_mem _ List.mem_cons_self) (.inr rfl)
  | found _ found stored => exact ⟨_, _, _, rfl, found, stored⟩

/-- A report that knows its check and has a run stores the check. -/
theorem CheckMode.Stored.exists_patch (stored : Stored now event options request id turns result)
    {run : Run} (present : request.run = some run) :
    ∃ turn ∈ turns, turn.question.kind = .patch ∧ turn.question.checkId? = some id := by
  obtain ⟨next, later, patch, rfl, asks⟩ := stored.patch_first present
  obtain ⟨-, rfl⟩ := stored.of_patch List.mem_cons_self asks
  exact ⟨next, List.mem_cons_self, by rw [asks]; rfl, by
    rw [asks, Call.checkId?, MetadataPatch.checkId?_forCheck]⟩

/-- The new checks of a report are those of its search. -/
theorem CheckMode.Stored.filterMap_createdCheck?
    (stored : Stored now event options request id rest result) :
    (search ++ rest).filterMap Turn.createdCheck? = search.filterMap Turn.createdCheck? := by
  have none : rest.filterMap Turn.createdCheck? = [] :=
    List.filterMap_eq_nil_iff.2 fun turn member => Turn.createdCheck?_eq_none fun kind =>
      Turn.not_mem_of_kinds stored.kinds (by simp [kind]) member
  rw [List.filterMap_append, none, List.append_nil]

end

namespace Episode

variable {episode : Episode} {filing : Filing} {run : Run}

/-- A trial for a run without a label searches what is listed, and stores the check it comes to. -/
theorem Tries.tried (tries : episode.Tries filing) (genuine : episode.Genuine)
    (hosted : episode.before.hasHosting = true) (installed : filing.event.hasAppInstallation = true)
    (present : filing.request.run = some run) (unlabelled : run.checkIdText = none) :
    ∃ listing ∈ episode.turns, listing.question.kind = .list ∧ ∃ id, episode.Carries id ∧
      Tried filing.request.runName listing.listed id episode := by
  obtain ⟨now, given⟩ := tries.given
  obtain ⟨ended, same, reported⟩ := genuine.reported_of_installed given hosted installed
  have label : storedId (Conclusion.apply filing.options filing.request) = .ok none := by
    rw [storedId_eq_none_iff, Conclusion.apply_run, present, Option.bind_some, unlabelled]
  obtain ⟨search, rest, id, whole, found, stored⟩ := reported.exists_found label tries.succeeds
  obtain ⟨patching, later, patches⟩ := stored.exists_patch present
  have carries : episode.Carries id := {
    stores := ⟨patching, whole ▸ List.mem_append_right _ later, patches⟩
    only := whole ▸ found.carriesOnly stored
    created := whole ▸ (found.provided stored).created }
  have created : episode.created = search.filterMap Turn.createdCheck? := by
    rw [Episode.created, whole, stored.filterMap_createdCheck?]
  generalize left : ended.slot = slot at found
  rw [left] at same
  cases found with
  | @chosen checks _ _ _ choice =>
    rw [same] at choice
    exact ⟨⟨.list filing.event filing.options.applicationId, .ok checks⟩, by simp [whole], rfl, id,
      carries, .chosen choice created⟩
  | @created checks _ choice =>
    exact ⟨⟨.list filing.event filing.options.applicationId, .ok checks⟩, by simp [whole], rfl, id,
      carries, .created choice same.symm created⟩

end Episode

/-! ## The listings of a service that remembers what it created -/

/-- Whether a listing shows the checks that were there at first, in their order, and those that were
created, anywhere among them. -/
structure Shows (base created listing : List ExistingCheck) : Prop where
  ordered : base.Sublist listing
  all : listing.Perm (base ++ created)

/-- Whether every listing shows the checks that were there at first and those created by then. -/
def Recalls (base : List ExistingCheck) : List ExistingCheck → List Episode → Prop
  | _, [] => True
  | created, episode :: rest =>
    (∀ turn ∈ episode.turns, turn.question.kind = .list → Shows base created turn.listed) ∧
      Recalls base (created ++ episode.created) rest

instance (base created listing : List ExistingCheck) : Decidable (Shows base created listing) :=
  decidable_of_iff (base.Sublist listing ∧ listing.Perm (base ++ created))
    ⟨fun both => ⟨both.1, both.2⟩, fun shows => ⟨shows.ordered, shows.all⟩⟩

instance decidableRecalls (base : List ExistingCheck) : (created : List ExistingCheck) →
    (episodes : List Episode) → Decidable (Recalls base created episodes)
  | _, [] => inferInstanceAs (Decidable True)
  | created, episode :: rest =>
    have := decidableRecalls base (created ++ episode.created) rest
    inferInstanceAs (Decidable (_ ∧ _))

/-- Whether the search comes to a check, and leaves the skip slot alone, wherever the checks that were
created are listed. -/
def Settled (name : String) (base created : List ExistingCheck) (slot : SkipSlot) (id : UInt64) : Prop :=
  ∀ listing, Shows base created listing →
    ∃ reason, choose name slot listing = (some (id, reason), slot)

section
variable {name : String} {base created listing : List ExistingCheck} {slot : SkipSlot}
variable {id other : UInt64} {episode : Episode}

theorem Shows.eq_base (shows : Shows base [] listing) : listing = base := by
  have same : listing.length = base.length := by simpa using shows.all.length_eq
  exact (shows.ordered.eq_of_length same.symm).symm

/-- A new check is found by its name if no check that was there before is usable. -/
theorem settled_of_created (unusable : ∀ check ∈ base, ¬ Usable name slot check) :
    Settled name base [⟨id, some name, none, none⟩] slot id := by
  intro listing shows
  have only : ∀ check ∈ listing, Usable name slot check → check = ⟨id, some name, none, none⟩ := by
    intro check member usable
    rcases List.mem_append.1 (shows.all.mem_iff.1 member) with old | new
    · exact absurd usable (unusable check old)
    · exact List.mem_singleton.1 new
  have there : (⟨id, some name, none, none⟩ : ExistingCheck) ∈ listing :=
    shows.all.mem_iff.2 (List.mem_append_right _ List.mem_cons_self)
  have usable : Usable name slot ⟨id, some name, none, none⟩ := .inr rfl
  have found : listing.find? (Usable name slot ·) = some ⟨id, some name, none, none⟩ := by
    cases first : listing.find? (Usable name slot ·) with
    | none => exact absurd usable (by simpa using List.find?_eq_none.1 first _ there)
    | some check =>
      exact congrArg some (only check (List.mem_of_find?_eq_some first) (usable_of_find? first))
  refine ⟨.externalId, ?_⟩
  rw [choose_eq, found]
  simp [settle, ExistingCheck.isSkipped]

/-- A trial that finds no new check listed takes the skip slot, or settles what is found from then on. -/
theorem Tried.settled_or_fills (tried : Tried name base id episode) :
    Settled name base episode.created episode.after.slot id ∨ episode.created = [] ∧ episode.Fills id := by
  cases tried with
  | @chosen reason choice uncreated =>
    obtain ⟨check, -, -, ⟨-, kept⟩ | ⟨free, -, filled⟩⟩ := choose_eq_some choice
    · refine .inl fun listing shows => ⟨reason, ?_⟩
      rw [uncreated] at shows
      rw [kept] at choice ⊢
      rw [shows.eq_base, choice]
    · exact .inr ⟨uncreated, free, filled⟩
  | created choice kept created =>
    rw [created, kept]
    exact .inl (settled_of_created (choose_eq_none_iff.1 choice).2)

/-- A trial settles on its check, or takes the skip slot with it. -/
theorem Tried.settles_or_fills {turn : CallTurn} (tried : Tried name turn.listed id episode)
    (member : turn ∈ episode.turns) (carries : episode.Carries id) :
    episode.Settles name id ∨ episode.Fills id := by
  cases tried with
  | chosen choice =>
    obtain ⟨check, present, same, ⟨named, kept⟩ | ⟨free, -, filled⟩⟩ := choose_eq_some choice
    · obtain ⟨patching, among, -, stores⟩ := carries.stores
      refine .inl (.inr ⟨⟨patching, among, stores⟩, fun fills => ?_, turn, member, check, present, same,
        named⟩)
      rw [fills.1, fills.2] at kept
      exact nomatch kept
    · exact .inr ⟨free, filled⟩
  | created _ _ created =>
    have among : ⟨id, some name, none, none⟩ ∈ episode.created := by simp [created]
    obtain ⟨creating, member, creates⟩ := List.mem_filterMap.1 among
    exact .inl (.inl ⟨creating, member, by rw [Turn.createdId?_eq, creates]; rfl⟩)

theorem Tried.length_created_le (tried : Tried name listing id episode) : episode.created.length ≤ 1 := by
  cases tried with
  | chosen _ uncreated => simp [uncreated]
  | created _ _ created => simp [created]

/-- Once it is settled what is found, a trial finds it, creates nothing, and leaves the skip slot alone. -/
theorem Settled.of_tried (settled : Settled name base created episode.before.slot id)
    (shows : Shows base created listing) (tried : Tried name listing other episode) :
    other = id ∧ episode.created = [] ∧ episode.after.slot = episode.before.slot := by
  obtain ⟨reason, choice⟩ := settled listing shows
  cases tried with
  | chosen found uncreated =>
    obtain ⟨same, kept⟩ := Prod.mk.inj (found.symm.trans choice)
    exact ⟨(Prod.mk.inj (Option.some.inj same)).1, uncreated, kept⟩
  | created found => exact nomatch found.symm.trans choice

end

/-! ## All trials -/

/-- An episode that stores a check on its run leaves the stored run with that check, if it succeeds. -/
theorem RunStore.checkId?_afterTurns_of_carries {store : RunStore} {episode : Episode} {run : Run}
    {id : UInt64} (genuine : episode.Genuine) (about : episode.run? = some run)
    (stored : store.run? run.key = some run) (carries : episode.Carries id)
    (succeeds : ∀ turn ∈ episode.turns, turn.question.kind = .patch → turn.failure? = none) :
    (store.afterTurns episode.turns).checkId? run.key = some id := by
  have supplies : store.Supplies episode := by
    intro other also
    obtain rfl := Option.some.inj (about.symm.trans also)
    exact stored
  obtain ⟨patching, member, kind, stores⟩ := carries.stores
  have patched : patching.Patched run.key := by
    obtain ⟨other, patch, asks⟩ : ∃ other patch, patching.question = .patch other patch := by
      cases asks : patching.question <;> simp [asks, Call.kind] at kind
      exact ⟨_, _, rfl⟩
    have same := Option.some.inj ((genuine.of_patch member asks).1.symm.trans about)
    exact ⟨other, patch, asks, by rw [same], succeeds patching member kind⟩
  obtain ⟨other, only, -, known⟩ := checkId?_afterTurns_of_patched genuine supplies member patched
  obtain rfl := only.eq member stores
  exact known

namespace Session

variable {first last : Reconciler} {episodes : List Episode} {filing : Filing} {run : Run}
variable {base created : List ExistingCheck} {id : UInt64}

/-- If all creations succeed, there are as many of them as there are new checks. -/
theorem countP_create (tries : ∀ episode ∈ episodes, episode.Tries filing) :
    (episodes.flatMap Episode.turns).countP (fun turn => turn.question.kind = .create) =
      (episodes.flatMap Episode.created).length := by
  induction episodes with
  | nil => rfl
  | cons episode rest ih =>
    obtain ⟨here, later⟩ := List.forall_mem_cons.1 tries
    rw [List.flatMap_cons, List.flatMap_cons, List.countP_append, List.length_append,
      here.countP_create, ih later]

/-- Once it is settled what is found, all trials carry it, and none creates a check. -/
theorem carries_of_settled (session : Session first episodes last) (hosted : first.hasHosting = true)
    (installed : filing.event.hasAppInstallation = true) (present : filing.request.run = some run)
    (unlabelled : run.checkIdText = none) (tries : ∀ episode ∈ episodes, episode.Tries filing)
    (recalls : Recalls base created episodes)
    (settled : Settled filing.request.runName base created first.slot id) :
    ∀ episode ∈ episodes, episode.Carries id ∧ episode.created = [] := by
  induction session with
  | nil => simp
  | @cons episode episodes last genuine rest ih =>
    obtain ⟨tried, tries⟩ := List.forall_mem_cons.1 tries
    obtain ⟨shows, recalls⟩ := recalls
    obtain ⟨listing, member, lists, other, carries, went⟩ :=
      tried.tried genuine hosted installed present unlabelled
    obtain ⟨rfl, uncreated, kept⟩ := settled.of_tried (shows listing member lists) went
    rw [uncreated, List.append_nil] at recalls
    exact List.forall_mem_cons.2 ⟨⟨carries, uncreated⟩,
      ih (genuine.hasHosting_after.trans hosted) tries recalls (kept ▸ settled)⟩

/-- As long as no check was created, trials create one check at most, and stay with what is settled. -/
theorem of_trials (session : Session first episodes last) (hosted : first.hasHosting = true)
    (installed : filing.event.hasAppInstallation = true) (present : filing.request.run = some run)
    (unlabelled : run.checkIdText = none) (tries : ∀ episode ∈ episodes, episode.Tries filing)
    (recalls : Recalls base [] episodes) :
    (episodes.flatMap Episode.created).length ≤ 1 ∧
      ∀ earlier episode later id, episodes = earlier ++ episode :: later →
        episode.Settles filing.request.runName id →
        ∀ next ∈ later, next.Carries id ∧ next.created = [] := by
  induction session with
  | nil => simp
  | @cons episode episodes last genuine rest ih =>
    obtain ⟨tried, tries⟩ := List.forall_mem_cons.1 tries
    obtain ⟨shows, recalls⟩ := recalls
    have hosting := genuine.hasHosting_after.trans hosted
    obtain ⟨listing, member, lists, id, carries, went⟩ :=
      tried.tried genuine hosted installed present unlabelled
    rw [(shows listing member lists).eq_base] at went
    obtain settled | ⟨uncreated, fills⟩ := went.settled_or_fills
    · have stays := rest.carries_of_settled hosting installed present unlabelled tries recalls settled
      constructor
      · have none : episodes.flatMap Episode.created = [] :=
          List.flatMap_eq_nil_iff.2 fun next among => (stays next among).2
        rw [List.flatMap_cons, none, List.append_nil]
        exact went.length_created_le
      · intro earlier one later other split settles next among
        cases earlier with
        | nil =>
          obtain ⟨rfl, rfl⟩ := List.cons.inj split
          exact carries.eq_of_settles settles ▸ stays next among
        | cons head earlier =>
          obtain ⟨-, rfl⟩ := List.cons.inj split
          have same := (stays one (by simp)).1.eq_of_settles settles
          exact same ▸ stays next (by simp [among])
    · rw [uncreated, List.append_nil] at recalls
      obtain ⟨single, stays⟩ := ih hosting tries recalls
      refine ⟨by rwa [List.flatMap_cons, uncreated, List.nil_append], ?_⟩
      intro earlier one later other split settles
      cases earlier with
      | nil =>
        obtain ⟨rfl, -⟩ := List.cons.inj split
        exact absurd settles (carries.not_settles uncreated fills)
      | cons head earlier =>
        obtain ⟨-, split⟩ := List.cons.inj split
        exact stays earlier one later other split settles

/-- Trials of a report of a run without a label, against a hosting service that remembers what it
created, make no more than one creation as long as none of them but the last can store its check. Each
of them settles on a check, unless it takes the skip slot. From the first one that settles on, all carry
that check and create none, and its identifier is what is stored in the end. -/
theorem retries_create_at_most_once {failed : List Episode} {final : Episode} {store : RunStore}
    (session : Session first (failed ++ [final]) last) (hosted : first.hasHosting = true)
    (installed : 0 < filing.event.installationId) (present : filing.request.run = some run)
    (unlabelled : run.checkIdText = none) (stored : store.run? run.key = some run)
    (tries : ∀ episode ∈ failed ++ [final], episode.Tries filing)
    (recalls : Recalls base [] (failed ++ [final]))
    (fails : ∀ episode ∈ failed, ∀ turn ∈ episode.turns, turn.question.kind = .patch →
      turn.failure? ≠ none)
    (succeeds : ∀ turn ∈ final.turns, turn.question.kind = .patch → turn.failure? = none) :
    ((failed ++ [final]).flatMap Episode.turns).countP (fun turn => turn.question.kind = .create) ≤ 1 ∧
    (∀ episode ∈ failed ++ [final], (∃ id, episode.Carries id) ∧
      ((∃ id, episode.Settles filing.request.runName id) ∨ ∃ id, episode.Fills id)) ∧
    (∃ id, final.Carries id ∧ (store.after (failed ++ [final])).checkId? run.key = some id) ∧
    ∀ earlier episode later id, failed ++ [final] = earlier ++ episode :: later →
      episode.Settles filing.request.runName id →
      (∀ next ∈ later, next.Carries id ∧ ∀ turn ∈ next.turns, turn.question.kind ≠ .create) ∧
        (store.after (failed ++ [final])).checkId? run.key = some id := by
  have installed : filing.event.hasAppInstallation = true := decide_eq_true installed
  have gone : ∀ episode ∈ failed ++ [final], ∃ listing ∈ episode.turns,
      listing.question.kind = .list ∧ ∃ id, episode.Carries id ∧
        Tried filing.request.runName listing.listed id episode := by
    intro episode among
    obtain ⟨genuine, same⟩ := session.genuine_of_mem episode among
    exact (tries episode among).tried genuine (same.trans hosted) installed present unlabelled
  obtain ⟨single, stays⟩ := session.of_trials hosted installed present unlabelled tries recalls
  obtain ⟨now, given⟩ := (tries final (by simp)).given
  have label : ∀ id, final.Carries id →
      (store.after (failed ++ [final])).checkId? run.key = some id := by
    intro id carries
    have kept : (store.after failed).run? run.key = some run := by
      refine (RunStore.run?_after fun episode among turn member patched => ?_).trans stored
      obtain ⟨other, patch, asks, -, succeeded⟩ := patched
      exact fails episode among turn member (by rw [asks]; rfl) succeeded
    rw [RunStore.after, List.foldl_append]
    exact RunStore.checkId?_afterTurns_of_carries (session.genuine_of_mem final (by simp)).1
      (by rw [Episode.run?, given, Option.bind_some, present]) kept carries succeeds
  refine ⟨?_, ?_, ?_, ?_⟩
  · rw [countP_create tries]
    exact single
  · intro episode among
    obtain ⟨listing, member, -, id, carries, went⟩ := gone episode among
    refine ⟨⟨id, carries⟩, ?_⟩
    exact (went.settles_or_fills member carries).imp (⟨id, ·⟩) (⟨id, ·⟩)
  · obtain ⟨-, -, -, id, carries, -⟩ := gone final (by simp)
    exact ⟨id, carries, label id carries⟩
  · intro earlier episode later id split settles
    have after := stays earlier episode later id split settles
    refine ⟨fun next among => ⟨(after next among).1, ?_⟩, label id ?_⟩
    · exact (tries next (by simp [split, among])).kind_ne_create (after next among).2
    · have ends : [final] <:+ episode :: later :=
        List.suffix_of_suffix_length_le ⟨failed, split⟩ (List.suffix_append _ _) (by simp)
      rcases List.mem_cons.1 (ends.subset List.mem_cons_self) with rfl | among
      · obtain ⟨-, -, -, other, carries, -⟩ := gone final (by simp)
        exact carries.eq_of_settles settles ▸ carries
      · exact (after final among).1

/-- The first trial takes over the check of a skipped run, the second one creates a check, and the third
one comes back to that check, which is listed first, and stores it. -/
theorem retries_create_at_most_once_after_skipped_check :
    let event : Event := ⟨"acme", "widgets", "0123abc", .push, none, 7⟩
    let run : Run := { name := "ci", namespaceName := "jobs" }
    let filing : Filing := ⟨.epoch, event, .default,
      { runName := "ci", phase := .queued, outcome := .pending, run := some run }⟩
    let skipped : ExistingCheck := ⟨5, none, some "Skipped", some "CI is skipping this commit."⟩
    let world : Rehearsal := { checks := [skipped], failing := [.patch] }
    let world' : Rehearsal := { checks := [⟨1000, some "ci", none, none⟩, skipped] }
    let taking := ({ hasHosting := true } : Reconciler).reportEpisode Rehearsal.answerer world filing
    let creating := taking.after.reportEpisode Rehearsal.answerer world filing
    let storing := creating.after.reportEpisode Rehearsal.answerer world' filing
    Session { hasHosting := true } ([taking, creating] ++ [storing]) storing.after ∧
      (∀ episode ∈ [taking, creating] ++ [storing], episode.Tries filing) ∧
      Recalls [skipped] [] ([taking, creating] ++ [storing]) ∧ taking.Fills 5 ∧
      creating.Settles "ci" 1000 ∧ storing.Carries 1000 ∧
      ((RunStore.single run).after ([taking, creating] ++ [storing])).checkId? run.key = some 1000 := by
  intro event run filing skipped world world' taking creating storing
  have session : Session { hasHosting := true } ([taking, creating] ++ [storing]) storing.after :=
    .cons (Episode.genuine_iff.2 (.inr ⟨_, _, _, _, _, rfl⟩))
      (.cons (Episode.genuine_iff.2 (.inr ⟨_, _, _, _, _, rfl⟩))
        (.cons (Episode.genuine_iff.2 (.inr ⟨_, _, _, _, _, rfl⟩)) (.nil _)))
  have tries : ∀ episode ∈ [taking, creating] ++ [storing], episode.Tries filing := by
    refine List.forall_mem_cons.2 ⟨⟨⟨_, rfl⟩, ?_⟩, List.forall_mem_cons.2 ⟨⟨⟨_, rfl⟩, ?_⟩,
      List.forall_mem_singleton.2 ⟨⟨_, rfl⟩, ?_⟩⟩⟩
    all_goals decide +kernel
  have recalls : Recalls [skipped] [] ([taking, creating] ++ [storing]) := by decide +kernel
  have fails : ∀ episode ∈ [taking, creating], ∀ turn ∈ episode.turns, turn.question.kind = .patch →
      turn.failure? ≠ none := by decide +kernel
  have succeeds : ∀ turn ∈ storing.turns, turn.question.kind = .patch → turn.failure? = none := by
    decide +kernel
  have settles : creating.Settles "ci" 1000 := .inl (by decide +kernel)
  have stored : (RunStore.single run).run? run.key = some run := by simp [RunStore.single]
  obtain ⟨-, -, -, stays⟩ := retries_create_at_most_once session rfl (by decide) rfl rfl stored tries
    recalls fails succeeds
  obtain ⟨carries, label⟩ := stays [taking] creating [storing] 1000 (by simp) settles
  exact ⟨session, tries, recalls, ⟨rfl, rfl⟩, settles, (carries storing List.mem_cons_self).1, label⟩

end Session
end CommitChecks

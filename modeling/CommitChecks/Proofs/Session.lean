import CommitChecks.Proofs.ReportCourses

/-!
# Sessions

A session is what happens to one reconciler: claims of the skip slot and reports, in any order, each
with the reconciler before and after it. Nothing is assumed of those who reply to the calls of a
report, so a session may run against any collaborators, with any failures. Sessions can be joined at
a shared reconciler and cut anywhere.
-/

namespace CommitChecks

/-- What a report is given. -/
structure Filing where
  now : Timestamp
  event : Event
  options : Options
  request : StatusRequest

/-- What is done to a reconciler, and what came of it. -/
inductive Deed where
  | claim (candidate : UInt64) (won : Bool)
  | report (filing : Filing) (turns : List CallTurn) (result : Except Failure (Option CheckHandle))

/-- A deed, with the reconciler before and after it. -/
structure Episode where
  before : Reconciler
  deed : Deed
  after : Reconciler

namespace Episode

/-- Whether this is how the reconciler behaves. -/
inductive Genuine : Episode → Prop
  | claim (reconciler : Reconciler) (candidate : UInt64) :
      Genuine ⟨reconciler, .claim candidate (reconciler.claim candidate).1,
        (reconciler.claim candidate).2⟩
  | report {reconciler : Reconciler} {filing : Filing} {turns : List CallTurn}
      {ended : Report (Option CheckHandle)}
      (admits : (reconciler.report filing.now filing.event filing.options filing.request).Admits
        turns ended) :
      Genuine ⟨reconciler, .report filing turns ended.result, reconciler.after ended⟩

/-- What the episode's report was given, if it is a report. -/
def filing? (episode : Episode) : Option Filing :=
  match episode.deed with
  | .claim _ _ => none
  | .report filing _ _ => some filing

/-- The run that an episode reports, if it is a report with a run. -/
def run? (episode : Episode) : Option Run :=
  episode.filing?.bind fun filing => filing.request.run

/-- The calls of an episode and the replies to them. -/
def turns (episode : Episode) : List CallTurn :=
  match episode.deed with
  | .claim _ _ => []
  | .report _ turns _ => turns

/-- Only reports make calls. -/
theorem exists_filing_of_mem {episode : Episode} {turn : CallTurn} (member : turn ∈ episode.turns) :
    ∃ filing, episode.filing? = some filing := by
  obtain ⟨before, deed, after⟩ := episode
  cases deed with
  | claim => exact nomatch member
  | report filing => exact ⟨filing, rfl⟩

/-- Whether an episode fills the empty skip slot with a check. -/
def Fills (episode : Episode) (id : UInt64) : Prop :=
  episode.before.slot = .empty ∧ episode.after.slot = ⟨some id⟩

end Episode

namespace Reconciler

/-- A claim of the skip slot. -/
def claimEpisode (reconciler : Reconciler) (candidate : UInt64) : Episode where
  before := reconciler
  deed := .claim candidate (reconciler.claim candidate).1
  after := (reconciler.claim candidate).2

/-- A report against someone who answers its calls. -/
def reportEpisode {World : Type} (reconciler : Reconciler)
    (answerer : Answerer Call Call.Reply World) (world : World) (filing : Filing) : Episode :=
  let dialogue := reconciler.report filing.now filing.event filing.options filing.request
  let ended := (dialogue.run answerer world).result
  ⟨reconciler, .report filing (dialogue.turns answerer world) ended.result, reconciler.after ended⟩

end Reconciler

/-- The genuine episodes are exactly the claims and the reports, against whoever answers. -/
theorem Episode.genuine_iff {episode : Episode} : episode.Genuine ↔
    (∃ reconciler candidate, Reconciler.claimEpisode reconciler candidate = episode) ∨
      ∃ (World : Type) (answerer : Answerer Call Call.Reply World) (world : World)
        (reconciler : Reconciler) (filing : Filing),
          reconciler.reportEpisode answerer world filing = episode := by
  constructor
  · intro genuine
    cases genuine with
    | claim reconciler candidate => exact .inl ⟨reconciler, candidate, rfl⟩
    | @report reconciler filing turns ended admits =>
      obtain ⟨World, answerer, world, rfl, rfl⟩ := Dialogue.admits_iff_exists_run.1 admits
      exact .inr ⟨World, answerer, world, reconciler, filing, rfl⟩
  · rintro (⟨reconciler, candidate, rfl⟩ | ⟨World, answerer, world, reconciler, filing, rfl⟩)
    · exact .claim reconciler candidate
    · exact .report (Dialogue.admits_run answerer _ world)

/-- A session, from the reconciler at its start to the one at its end. -/
inductive Session : Reconciler → List Episode → Reconciler → Prop
  | nil (reconciler : Reconciler) : Session reconciler [] reconciler
  | cons {episode : Episode} {episodes : List Episode} {last : Reconciler}
      (genuine : episode.Genuine) (rest : Session episode.after episodes last) :
      Session episode.before (episode :: episodes) last

namespace Session

variable {first middle last : Reconciler} {earlier later episodes : List Episode}

theorem append (left : Session first earlier middle) (right : Session middle later last) :
    Session first (earlier ++ later) last := by
  induction left with
  | nil => exact right
  | cons genuine _ ih => exact .cons genuine (ih right)

/-- A session can be cut anywhere; both parts share the whole reconciler. -/
theorem append_iff : Session first (earlier ++ later) last ↔
    ∃ middle, Session first earlier middle ∧ Session middle later last := by
  constructor
  · intro session
    induction earlier generalizing first with
    | nil => exact ⟨first, .nil first, session⟩
    | cons episode rest ih =>
      cases session with
      | cons genuine tail =>
        obtain ⟨middle, left, right⟩ := ih tail
        exact ⟨middle, .cons genuine left, right⟩
  · rintro ⟨middle, left, right⟩
    exact left.append right

/-- The reconciler before an episode is the one that the session has led to. -/
theorem cut {episode : Episode} (session : Session first (earlier ++ episode :: later) last) :
    Session first earlier episode.before ∧ episode.Genuine ∧ Session episode.after later last := by
  obtain ⟨middle, left, right⟩ := append_iff.1 session
  cases right with
  | cons genuine rest => exact ⟨left, genuine, rest⟩

end Session

/-! ## What an episode does to the skip slot -/

namespace Reconciler.Filed

open CheckMode

variable {now : Timestamp} {event : Event} {options : Options} {request : StatusRequest}
  {reconciler : Reconciler} {turns : List CallTurn} {ended : Report (Option CheckHandle)}

/-- A report that changes the skip slot is a report through checks. -/
theorem reported_of_slot_ne (filed : Filed now event options request reconciler turns ended)
    (changed : ended.slot ≠ reconciler.slot) :
    event.hasAppInstallation = true ∧
      ∃ inner, Reported now event options (Conclusion.apply options request) reconciler.slot turns
        inner ∧ ended = ⟨inner.result.map some, inner.slot⟩ := by
  cases filed with
  | unhosted => exact absurd rfl changed
  | checked _ installed reported => exact ⟨installed, _, reported, rfl⟩
  | flat => exact absurd rfl changed

end Reconciler.Filed

namespace Episode.Genuine

open Reconciler CheckMode

variable {episode : Episode}

/-- No episode takes the hosting service away, or adds one. -/
theorem hasHosting_after (genuine : episode.Genuine) :
    episode.after.hasHosting = episode.before.hasHosting := by
  cases genuine <;> rfl

/-- A report goes through checks, or makes no call for a check at all. -/
theorem reported (genuine : episode.Genuine) {filing : Filing}
    (given : episode.filing? = some filing) :
    (∃ ended, ended.slot = episode.after.slot ∧
      Reported filing.now filing.event filing.options
        (Conclusion.apply filing.options filing.request) episode.before.slot episode.turns ended) ∨
      ∀ turn ∈ episode.turns, turn.question.kind = .status ∨ turn.question.kind = .comment := by
  cases genuine with
  | claim => exact nomatch given
  | report admits =>
    cases given
    exact (report_admits_iff.1 admits).reported

variable {filing : Filing} {turn : CallTurn}

/-- With a hosting service and an app installation, a report goes through checks. -/
theorem reported_of_installed (genuine : episode.Genuine)
    (given : episode.filing? = some filing) (hosted : episode.before.hasHosting = true)
    (installed : filing.event.hasAppInstallation = true) :
    ∃ ended, ended.slot = episode.after.slot ∧
      Reported filing.now filing.event filing.options
        (Conclusion.apply filing.options filing.request) episode.before.slot episode.turns ended := by
  cases genuine with
  | claim => exact nomatch given
  | report admits =>
    cases given
    obtain ⟨inner, reported, rfl⟩ :=
      (report_admits_iff.1 admits).of_installed hosted installed
    exact ⟨inner, rfl, reported⟩

/-- A call for anything but a status or a comment is made by a report through checks. -/
theorem reported_of_mem (genuine : episode.Genuine) (given : episode.filing? = some filing)
    (member : turn ∈ episode.turns) (kind : turn.question.kind ∉ [Call.Kind.status, .comment]) :
    ∃ ended, ended.slot = episode.after.slot ∧
      Reported filing.now filing.event filing.options
        (Conclusion.apply filing.options filing.request) episode.before.slot episode.turns ended := by
  obtain reported | flat := genuine.reported given
  · exact reported
  · exact absurd (flat turn member) (by simpa using kind)

/-- Every check that a report carries has one of the four origins. -/
theorem origin (genuine : episode.Genuine) (given : episode.filing? = some filing)
    (member : turn ∈ episode.turns) {carried : UInt64}
    (carries : turn.question.checkId? = some carried) :
    Origin filing.request episode.before.slot episode.after.slot episode.turns carried := by
  have kind := Call.kind_of_checkId? carries
  obtain ⟨ended, same, reported⟩ := genuine.reported_of_mem given member (by
    rcases kind with kind | kind <;> simp [kind])
  cases reported.origin member carries with
  | label stored => exact .label stored
  | creation member created => exact .creation member created
  | name member listed same named => exact .name member listed same named
  | claim empty filled => exact .claim empty (same ▸ filled)

/-- A report lists checks, if at all, before it does anything else. -/
theorem head?_of_listed (genuine : episode.Genuine) (member : turn ∈ episode.turns)
    {check : ExistingCheck} (present : check ∈ turn.listed) : episode.turns.head? = some turn := by
  obtain ⟨filing, given⟩ := exists_filing_of_mem member
  have kind := Turn.kind_of_mem_listed present
  obtain ⟨ended, -, reported⟩ := genuine.reported_of_mem given member (by simp [kind])
  exact reported.head?_of_listed member present

/-- The only external identifier that a report gives a check is the name of its run. -/
theorem externalId?_eq (genuine : episode.Genuine) (given : episode.filing? = some filing)
    (member : turn ∈ episode.turns) {name : String}
    (gives : turn.question.externalId? = some name) : name = filing.request.runName := by
  have kind := Call.kind_of_externalId? gives
  obtain ⟨ended, -, reported⟩ := genuine.reported_of_mem given member (by
    rcases kind with kind | kind <;> simp [kind])
  exact reported.externalId?_eq turn member name gives

/-- An episode that patches a run is a report of that run, which had no label, and puts the check on it
that it found. -/
theorem of_patch (genuine : episode.Genuine) (member : turn ∈ episode.turns) {run : Run}
    {patch : MetadataPatch} (asks : turn.question = .patch run patch) :
    episode.run? = some run ∧ run.checkIdText = none ∧ ∃ id logUrl,
      patch = .forCheck id logUrl ∧ CarriesOnly id episode.turns ∧
        Provided id episode.turns := by
  obtain ⟨filing, given⟩ := exists_filing_of_mem member
  obtain ⟨ended, -, reported⟩ := genuine.reported_of_mem given member (by simp [asks, Call.kind])
  obtain ⟨present, unlabelled, id, same, only, provided⟩ := reported.of_patch member asks
  refine ⟨?_, unlabelled, id, _, same, only, provided⟩
  rw [Episode.run?, given]
  exact present

/-- An episode leaves the skip slot as it is, or fills it. -/
theorem slot_eq_or_fills (genuine : episode.Genuine) :
    episode.after.slot = episode.before.slot ∨ ∃ id, episode.Fills id := by
  cases genuine with
  | claim reconciler candidate =>
    by_cases free : reconciler.slot = .empty
    · refine .inr ⟨candidate, free, ?_⟩
      change (reconciler.slot.claim candidate).2 = _
      rw [SkipSlot.claim_snd, if_pos free]
    · refine .inl ?_
      change (reconciler.slot.claim candidate).2 = _
      rw [SkipSlot.claim_snd, if_neg free]
  | @report reconciler filing turns ended admits =>
    by_cases same : ended.slot = reconciler.slot
    · exact .inl same
    · obtain ⟨-, inner, reported, rfl⟩ := (report_admits_iff.1 admits).reported_of_slot_ne same
      obtain ⟨free, -, _, check, _, -, -, -, filled, -⟩ := reported.of_slot_ne same
      exact .inr ⟨check.id, free, filled⟩

end Episode.Genuine

namespace Session

variable {first last : Reconciler} {episodes : List Episode}

/-- Every episode of a session is genuine, and has a hosting service if the session has. -/
theorem genuine_of_mem (session : Session first episodes last) :
    ∀ episode ∈ episodes, episode.Genuine ∧ episode.before.hasHosting = first.hasHosting := by
  induction session with
  | nil => simp
  | @cons episode episodes last genuine rest ih =>
    refine List.forall_mem_cons.2 ⟨⟨genuine, rfl⟩, fun next among => ?_⟩
    exact ⟨(ih next among).1, (ih next among).2.trans genuine.hasHosting_after⟩

/-- Once the skip slot is full, no episode fills it, and none empties it. -/
theorem of_full (session : Session first episodes last) {id : UInt64}
    (full : first.slot = ⟨some id⟩) :
    last.slot = ⟨some id⟩ ∧ ∀ episode ∈ episodes,
      episode.before.slot = ⟨some id⟩ ∧ episode.after.slot = ⟨some id⟩ := by
  induction session with
  | nil => exact ⟨full, by simp⟩
  | @cons episode episodes last genuine rest ih =>
    have kept : episode.after.slot = ⟨some id⟩ := by
      obtain same | ⟨other, free, -⟩ := genuine.slot_eq_or_fills
      · exact same.trans full
      · rw [free] at full
        exact nomatch full
    obtain ⟨ends, later⟩ := ih kept
    exact ⟨ends, List.forall_mem_cons.2 ⟨⟨full, kept⟩, later⟩⟩

end Session
end CommitChecks

import CommitChecks.Proofs.Session.RunStore
import CommitChecks.Rehearsal

/-!
# A stored check is final

A report of a run that has a check on its label goes straight to the update of that check. It neither
lists nor creates checks, and does not patch the run, so the label stays as it is. A run can therefore
get a second check only if the first one could not be stored on it.
-/

namespace CommitChecks

namespace CheckMode

variable {now : Timestamp} {event : Event} {options : Options} {request : StatusRequest}
  {slot : SkipSlot} {id : UInt64} {turns : List CallTurn} {ended : Report CheckHandle}

/-- The report of a run with a check updates that check, and calls for nothing else but logs. -/
theorem Reported.of_labelled (reported : Reported now event options request slot turns ended)
    (known : storedId request = .ok (some id)) :
    CarriesOnly id turns ∧ ∀ turn ∈ turns, turn.question.kind ∉ [Call.Kind.list, .create, .patch] := by
  obtain ⟨-, updated⟩ := reported.updated known
  refine ⟨updated.carriesOnly, fun turn member acquires => ?_⟩
  refine Turn.not_mem_of_kinds updated.kinds ?_ member
  simp only [List.mem_cons, List.not_mem_nil, or_false] at acquires
  obtain kind | kind | kind := acquires <;> simp [kind]

/-- A report that knows its check and has a run patches the run before it does anything else. -/
theorem Stored.patch_first {result : Except Failure CheckHandle}
    (stored : Stored now event options request id turns result) {run : Run}
    (present : request.run = some run) :
    ∃ next later patch, turns = next :: later ∧ next.question = .patch run patch := by
  cases stored with
  | runless none =>
    rw [present] at none
    contradiction
  | unpatched some =>
    obtain rfl := Option.some.inj (present.symm.trans some)
    exact ⟨_, _, _, rfl, rfl⟩
  | patched some =>
    obtain rfl := Option.some.inj (present.symm.trans some)
    exact ⟨_, _, _, rfl, rfl⟩

/-- Right after it created a check, a report with a run patches the run; it creates no second one. -/
theorem Reported.of_creation (reported : Reported now event options request slot turns ended)
    {run : Run} (present : request.run = some run) {before rest : List CallTurn} {created : CallTurn}
    (split : turns = before ++ created :: rest) (creates : created.createdId? = some id) :
    (∃ next later patch, rest = next :: later ∧ next.question = .patch run patch) ∧
      ∀ turn ∈ rest, turn.createdId? = none := by
  have member : created ∈ turns := by simp [split]
  cases reported with
  | unreadable => exact nomatch member
  | labelled _ updated =>
    have kind := Turn.kind_of_createdId? creates
    exact absurd member (Turn.not_mem_of_kinds updated.kinds (by simp [kind]))
  | unlisted =>
    obtain rfl := List.mem_singleton.1 member
    exact nomatch creates
  | uncreated =>
    obtain rfl | rfl := by simpa using member
    · exact nomatch creates
    · exact nomatch creates
  | @found _ _ search turns _ _ found stored =>
    have fresh : created ∉ turns := fun later => by
      rw [stored.createdId?_eq_none later] at creates
      exact nomatch creates
    cases found with
    | chosen =>
      obtain rfl := (List.mem_cons.1 member).resolve_right fresh
      exact nomatch creates
    | created =>
      -- The creation is the second call, so what follows it is exactly the storing of the check.
      match before, split with
      | [], split =>
        obtain ⟨rfl, -⟩ := List.cons.inj split
        exact nomatch creates
      | [_], split =>
        obtain ⟨-, split⟩ := List.cons.inj split
        obtain ⟨-, rfl⟩ := List.cons.inj split
        exact ⟨stored.patch_first present, fun turn => stored.createdId?_eq_none⟩
      | _ :: _ :: earlier, split =>
        obtain ⟨-, split⟩ := List.cons.inj split
        obtain ⟨-, rfl⟩ := List.cons.inj split
        exact absurd (by simp) fresh

end CheckMode

namespace Episode.Genuine

variable {episode : Episode} {run : Run} {id : UInt64}

/-- The report of a run with a check updates that check, and neither finds nor stores another. -/
theorem of_labelled (genuine : episode.Genuine) (given : episode.run? = some run)
    (known : run.checkId? = some id) :
    CarriesOnly id episode.turns ∧
      ∀ turn ∈ episode.turns, turn.question.kind ∉ [Call.Kind.list, .create, .patch] := by
  obtain ⟨filing, filed, present⟩ := Option.bind_eq_some_iff.1 given
  obtain ⟨ended, -, reported⟩ | flat := genuine.reported filed
  · refine reported.of_labelled (CheckMode.storedId_eq_some_iff.2 ?_)
    rw [Conclusion.apply_run, present, Option.bind_some, known]
  · constructor
    · refine .of_kinds fun turn member => ?_
      obtain kind | kind := flat turn member <;> simp [kind]
    · intro turn member
      obtain kind | kind := flat turn member <;> simp [kind]

/-- Right after it created a check, a report with a run patches the run; it creates no second one. -/
theorem of_creation (genuine : episode.Genuine) (given : episode.run? = some run)
    {before rest : List CallTurn} {created : CallTurn}
    (split : episode.turns = before ++ created :: rest) (creates : created.createdId? = some id) :
    (∃ next later patch, rest = next :: later ∧ next.question = .patch run patch) ∧
      ∀ turn ∈ rest, turn.createdId? = none := by
  obtain ⟨filing, filed, present⟩ := Option.bind_eq_some_iff.1 given
  have member : created ∈ episode.turns := by simp [split]
  have kind := Turn.kind_of_createdId? creates
  obtain ⟨ended, -, reported⟩ := genuine.reported_of_mem filed member (by simp [kind])
  exact reported.of_creation present split creates

end Episode.Genuine

namespace Session

variable {first last : Reconciler} {episodes : List Episode} {store : RunStore} {key : RunKey}
  {id : UInt64}

/-- Over a whole session, a stored run that has a check keeps it, and every report of the run updates
that check, and neither finds nor stores another. -/
theorem of_stored (session : Session first episodes last) (serves : store.Serves episodes)
    (known : store.checkId? key = some id) :
    (store.after episodes).run? key = store.run? key ∧
      ∀ episode ∈ episodes, episode.run?.map Run.key = some key →
        CarriesOnly id episode.turns ∧
          ∀ turn ∈ episode.turns, turn.question.kind ∉ [Call.Kind.list, .create, .patch] := by
  induction session generalizing store with
  | nil => exact ⟨rfl, by simp⟩
  | @cons episode episodes last genuine rest ih =>
    obtain ⟨supplies, serves⟩ := serves
    have kept : (store.afterTurns episode.turns).run? key = store.run? key := by
      obtain ⟨text, label⟩ := RunStore.checkIdText?_of_checkId? known
      exact RunStore.run?_afterTurns_of_label genuine supplies (by simp [label])
    obtain ⟨stays, later⟩ := ih serves (by rwa [RunStore.checkId?, kept])
    refine ⟨stays.trans kept, List.forall_mem_cons.2 ⟨fun about => ?_, later⟩⟩
    obtain ⟨run, given, rfl⟩ := Option.map_eq_some_iff.1 about
    rw [RunStore.checkId?, supplies run given] at known
    exact genuine.of_labelled given known

/-- The calls of all reports of a run, with the replies to them. -/
def turnsOf (key : RunKey) (episodes : List Episode) : List CallTurn :=
  episodes.flatMap fun episode => if episode.run?.map Run.key = some key then episode.turns else []

theorem turnsOf_cons (key : RunKey) (episode : Episode) (episodes : List Episode) :
    turnsOf key (episode :: episodes) =
      (if episode.run?.map Run.key = some key then episode.turns else []) ++ turnsOf key episodes :=
  List.flatMap_cons

/-- A run that has a check gets no other for the rest of the session. -/
theorem createdId?_eq_none_of_stored (session : Session first episodes last)
    (serves : store.Serves episodes) (known : store.checkId? key = some id) {turn : CallTurn}
    (member : turn ∈ turnsOf key episodes) : turn.createdId? = none := by
  obtain ⟨episode, among, here⟩ := List.mem_flatMap.1 member
  split at here
  · rename_i about
    obtain ⟨-, others⟩ := (session.of_stored serves known).2 episode among about
    refine Option.eq_none_iff_forall_ne_some.2 fun created creates => others turn here ?_
    simp [Turn.kind_of_createdId? creates]
  · exact nomatch here

/-- Between two creations for a run, storing the first one on the run has failed. -/
theorem exists_failed_patch (session : Session first episodes last) (serves : store.Serves episodes)
    {before between after : List CallTurn} {created again : CallTurn}
    (split : turnsOf key episodes = before ++ created :: (between ++ again :: after))
    (creates : created.createdId?.isSome = true) (recreates : again.createdId?.isSome = true) :
    ∃ turn ∈ between, ∃ run patch, turn.question = .patch run patch ∧ run.key = key ∧
      turn.failure? ≠ none := by
  induction session generalizing store before with
  | nil => simp [turnsOf] at split
  | @cons episode episodes last genuine rest ih =>
    obtain ⟨supplies, serves⟩ := serves
    rw [turnsOf_cons] at split
    by_cases about : episode.run?.map Run.key = some key
    · rw [if_pos about] at split
      obtain ⟨run, given, rfl⟩ := Option.map_eq_some_iff.1 about
      obtain ⟨earlier, rfl, others⟩ | ⟨own, here, others⟩ := List.append_eq_append_iff.1 split
      · exact ih serves others
      cases own with
      | nil =>
        have rest : turnsOf run.key episodes = [] ++ created :: (between ++ again :: after) :=
          others.symm
        exact ih serves rest
      | cons head tail =>
        obtain ⟨rfl, following⟩ := List.cons.inj others
        obtain ⟨id, creates⟩ := Option.isSome_iff_exists.1 creates
        obtain ⟨⟨next, later, patch, rfl, asks⟩, fresh⟩ := genuine.of_creation given here creates
        by_cases succeeds : next.failure? = none
        · -- The identifier is stored, so no other report of the run creates a check.
          exfalso
          have patched : next.Patched run.key := ⟨run, patch, asks, rfl, succeeds⟩
          have among : next ∈ episode.turns := by simp [here]
          obtain ⟨id, -, -, known⟩ :=
            RunStore.checkId?_afterTurns_of_patched genuine supplies among patched
          have member : again ∈ (next :: later) ++ turnsOf run.key episodes := by
            change again ∈ (next :: later).append (turnsOf run.key episodes)
            rw [← following]
            exact List.mem_append_right _ List.mem_cons_self
          have none : again.createdId? = none := by
            rcases List.mem_append.1 member with own | other
            · exact fresh again own
            · exact createdId?_eq_none_of_stored rest serves known other
          simp [none] at recreates
        · cases between with
          | nil =>
            obtain ⟨rfl, -⟩ := List.cons.inj following
            simp [fresh] at recreates
          | cons failed between =>
            obtain ⟨rfl, -⟩ := List.cons.inj following
            exact ⟨_, List.mem_cons_self, run, patch, asks, rfl, succeeds⟩
    · rw [if_neg about] at split
      exact ih serves split

private theorem exists_two_of_one_lt_countP {α : Type} {p : α → Bool} {items : List α}
    (many : 1 < items.countP p) : ∃ before first between second after,
      items = before ++ first :: (between ++ second :: after) ∧ p first = true ∧
        p second = true := by
  induction items with
  | nil => simp at many
  | cons item rest ih =>
    by_cases holds : p item = true
    · rw [List.countP_cons_of_pos holds] at many
      obtain ⟨second, member, holdsToo⟩ := List.countP_pos_iff.1 (Nat.lt_of_succ_lt_succ many)
      obtain ⟨between, after, rfl⟩ := List.append_of_mem member
      exact ⟨[], item, between, second, after, rfl, holds, holdsToo⟩
    · rw [List.countP_cons_of_neg holds] at many
      obtain ⟨before, first, between, second, after, rfl, found⟩ := ih many
      exact ⟨item :: before, first, between, second, after, rfl, found⟩

/-- In a session whose reports are given the stored runs, a run that has a check on its label is not
changed any more, and its reports update that very check and neither list, create nor store another.
A patch that succeeds puts the check on the run that its report has found. So between two creations for
one run a patch of it has failed, and a run whose patches never fail gets at most one check created. -/
theorem stored_check_is_final (session : Session first episodes last)
    (serves : store.Serves episodes) (key : RunKey) :
    (∀ earlier later id, episodes = earlier ++ later → (store.after earlier).checkId? key = some id →
      (∀ middle rest, later = middle ++ rest →
        (store.after (earlier ++ middle)).run? key = (store.after earlier).run? key) ∧
      ∀ episode ∈ later, episode.run?.map Run.key = some key →
        (∀ turn ∈ episode.turns, turn.question.kind ∉ [Call.Kind.list, .create, .patch]) ∧
        ∀ turn ∈ episode.turns, turn.question.kind = .update →
          turn.question.checkId? = some id) ∧
    (∀ earlier episode later turn, episodes = earlier ++ episode :: later → turn ∈ episode.turns →
      turn.Patched key → ∃ id, CarriesOnly id episode.turns ∧
        CheckMode.Provided id episode.turns ∧
        (store.after (earlier ++ [episode])).checkId? key = some id) ∧
    (∀ before created between again after,
      turnsOf key episodes = before ++ created :: (between ++ again :: after) →
      created.createdId?.isSome = true → again.createdId?.isSome = true →
      ∃ turn ∈ between, ∃ run patch, turn.question = .patch run patch ∧ run.key = key ∧
        turn.failure? ≠ none) ∧
    ((∀ turn ∈ turnsOf key episodes, ∀ run patch, turn.question = .patch run patch →
        run.key = key → turn.failure? = none) →
      (turnsOf key episodes).countP (fun turn => turn.createdId?.isSome) ≤ 1) := by
  have apart := fun before created between again after
      (split : turnsOf key episodes = before ++ created :: (between ++ again :: after)) creates
      recreates => session.exists_failed_patch serves split creates recreates
  refine ⟨?_, ?_, apart, ?_⟩
  · rintro earlier later id rfl known
    obtain ⟨middle, -, right⟩ := append_iff.1 session
    have served := (RunStore.serves_append.1 serves).2
    constructor
    · rintro middle rest rfl
      obtain ⟨_, left, -⟩ := append_iff.1 right
      have stays := (left.of_stored (RunStore.serves_append.1 served).1 known).1
      rwa [RunStore.after, List.foldl_append]
    · intro episode among about
      obtain ⟨only, others⟩ := (right.of_stored served known).2 episode among about
      exact ⟨others, fun turn member updates => only turn member (.inr updates)⟩
  · rintro earlier episode later turn rfl member patched
    have supplies := (RunStore.serves_append.1 serves).2.1
    obtain ⟨id, only, provided, known⟩ :=
      RunStore.checkId?_afterTurns_of_patched session.cut.2.1 supplies member patched
    refine ⟨id, only, provided, ?_⟩
    rwa [RunStore.after, List.foldl_append]
  · intro succeed
    by_contra many
    obtain ⟨before, created, between, again, after, split, creates, recreates⟩ :=
      exists_two_of_one_lt_countP (Nat.lt_of_not_le many)
    obtain ⟨turn, member, run, patch, asks, same, fails⟩ :=
      apart before created between again after split creates recreates
    exact fails (succeed turn (by simp [split, member]) run patch asks same)

/-- A check is created and stored, but cannot be updated; the next report comes back to it. -/
theorem stored_check_is_final_after_failed_update :
    let event : Event := ⟨"acme", "widgets", "0123abc", .push, none, 7⟩
    let run : Run := { name := "ci", namespaceName := "jobs" }
    let filing := fun run : Run => Filing.mk .epoch event .default
      { runName := "ci", phase := .queued, outcome := .pending, run := some run }
    let world : Rehearsal := { failing := [.update] }
    let creating := ({ hasHosting := true } : Reconciler).reportEpisode Rehearsal.answerer world
      (filing run)
    let returning := creating.after.reportEpisode Rehearsal.answerer world
      (filing ((MetadataPatch.forCheck 1000 "").applyTo run))
    Session { hasHosting := true } [creating, returning] returning.after ∧
      (RunStore.single run).Serves [creating, returning] ∧
      ((RunStore.single run).after [creating]).checkId? run.key = some 1000 ∧
      (∀ turn ∈ returning.turns, turn.question.kind ∉ [Call.Kind.list, .create, .patch]) ∧
      ∀ turn ∈ returning.turns, turn.question.kind = .update →
        turn.question.checkId? = some 1000 := by
  intro event run filing world creating returning
  have session : Session { hasHosting := true } [creating, returning] returning.after :=
    .cons (Episode.genuine_iff.2 (.inr ⟨_, _, _, _, _, rfl⟩))
      (.cons (Episode.genuine_iff.2 (.inr ⟨_, _, _, _, _, rfl⟩)) (.nil _))
  have serves : (RunStore.single run).Serves [creating, returning] := by
    refine ⟨?_, ?_, trivial⟩
    · rintro _ ⟨⟩
      rfl
    · rintro _ ⟨⟩
      rfl
  have known : ((RunStore.single run).after [creating]).checkId? run.key = some 1000 := by
    decide +kernel
  obtain ⟨final, -⟩ := stored_check_is_final session serves run.key
  exact ⟨session, serves, known,
    (final [creating] [returning] 1000 rfl known).2 returning List.mem_cons_self rfl⟩

end Session
end CommitChecks

import CommitChecks.Proofs.Session

/-!
# The store of runs over a session

Runs are stored under their namespace and name. A patch that succeeds is applied to the stored run,
and nothing else changes the store. The store serves a session if every report that comes with a run
has got it as it is stored by then. Under these terms a label once stored stays for good, since a run
that has one is never patched.
-/

namespace CommitChecks

/-- What a run is stored under. -/
structure RunKey where
  namespaceName : String
  name : String
  deriving DecidableEq

/-- The key of a run. -/
def Run.key (run : Run) : RunKey :=
  ⟨run.namespaceName, run.name⟩

/-- A patch leaves a run under its key. -/
@[simp] theorem MetadataPatch.key_applyTo (patch : MetadataPatch) (run : Run) :
    (patch.applyTo run).key = run.key := rfl

/-- A store of runs, each under its own key. -/
structure RunStore where
  run? : RunKey → Option Run
  keyed : ∀ key run, run? key = some run → run.key = key

/-- Whether a call patched the run of a key. -/
def Turn.Patched (key : RunKey) (turn : CallTurn) : Prop :=
  ∃ run patch, turn.question = .patch run patch ∧ run.key = key ∧ turn.failure? = none

namespace RunStore

/-- The store of a single run. -/
def single (run : Run) : RunStore where
  run? key := if key = run.key then some run else none
  keyed key stored found := by
    split at found
    · cases found
      exact Eq.symm ‹_›
    · contradiction

/-- The store with the run of a key patched. -/
def patched (store : RunStore) (key : RunKey) (patch : MetadataPatch) : RunStore where
  run? other := if other = key then (store.run? key).map patch.applyTo else store.run? other
  keyed other run found := by
    split at found
    · rename_i same
      obtain ⟨stored, present, rfl⟩ := Option.map_eq_some_iff.1 found
      rw [same, MetadataPatch.key_applyTo, store.keyed key stored present]
    · exact store.keyed other run found

/-- The store after a call: a patch that succeeds is applied to the stored run. -/
def afterTurn (store : RunStore) (turn : CallTurn) : RunStore :=
  match turn.question with
  | .patch run patch => if turn.failure? = none then store.patched run.key patch else store
  | _ => store

/-- The store after calls. -/
def afterTurns (store : RunStore) (turns : List CallTurn) : RunStore :=
  turns.foldl afterTurn store

/-- The store after episodes. -/
def after (store : RunStore) (episodes : List Episode) : RunStore :=
  episodes.foldl (fun store episode => store.afterTurns episode.turns) store

/-- The text of the label that holds the identifier of a stored run's check. -/
def checkIdText? (store : RunStore) (key : RunKey) : Option String :=
  (store.run? key).bind Run.checkIdText

/-- The check of a stored run, if its label holds one. -/
def checkId? (store : RunStore) (key : RunKey) : Option UInt64 :=
  (store.run? key).bind Run.checkId?

/-- Whether an episode is given its run as it is stored. -/
def Supplies (store : RunStore) (episode : Episode) : Prop :=
  ∀ run, episode.run? = some run → store.run? run.key = some run

/-- Whether all episodes are given their runs as they are stored by then. -/
def Serves : RunStore → List Episode → Prop
  | _, [] => True
  | store, episode :: rest => store.Supplies episode ∧ (store.afterTurns episode.turns).Serves rest

variable {store : RunStore} {key : RunKey} {id : UInt64} {turns : List CallTurn}

theorem serves_append {earlier later : List Episode} :
    store.Serves (earlier ++ later) ↔ store.Serves earlier ∧ (store.after earlier).Serves later := by
  induction earlier generalizing store with
  | nil => simp [Serves, after]
  | cons episode rest ih => simp only [List.cons_append, Serves, ih, and_assoc, after, List.foldl_cons]

theorem checkIdText?_of_checkId? (known : store.checkId? key = some id) :
    ∃ text, store.checkIdText? key = some text := by
  obtain ⟨run, present, holds⟩ := Option.bind_eq_some_iff.1 known
  obtain ⟨text, label, -⟩ := Option.bind_eq_some_iff.1 holds
  exact ⟨text, by rw [checkIdText?, present, Option.bind_some, label]⟩

/-! ## What calls do to a stored run -/

/-- A call that does not patch a run leaves it alone. -/
theorem run?_afterTurn {turn : CallTurn} (other : ¬ turn.Patched key) :
    (store.afterTurn turn).run? key = store.run? key := by
  unfold afterTurn
  split
  · rename_i run patch asks
    split
    · rename_i succeeds
      exact if_neg fun same => other ⟨run, patch, asks, same.symm, succeeds⟩
    · rfl
  · rfl

theorem run?_afterTurns (others : ∀ turn ∈ turns, ¬ turn.Patched key) :
    (store.afterTurns turns).run? key = store.run? key := by
  induction turns generalizing store with
  | nil => rfl
  | cons turn rest ih =>
    obtain ⟨other, others⟩ := List.forall_mem_cons.1 others
    exact (ih others).trans (run?_afterTurn other)

/-- As long as the patches of a run fail, the stored run stays as it is. -/
theorem run?_after {episodes : List Episode}
    (others : ∀ episode ∈ episodes, ∀ turn ∈ episode.turns, ¬ turn.Patched key) :
    (store.after episodes).run? key = store.run? key := by
  induction episodes generalizing store with
  | nil => rfl
  | cons episode rest ih =>
    obtain ⟨here, others⟩ := List.forall_mem_cons.1 others
    exact (ih others).trans (run?_afterTurns here)

/-- A patch that succeeds is applied to the stored run. -/
theorem run?_afterTurn_of_patch {turn : CallTurn} {run : Run} {patch : MetadataPatch}
    (asks : turn.question = .patch run patch) (succeeds : turn.failure? = none) :
    (store.afterTurn turn).run? run.key = (store.run? run.key).map patch.applyTo := by
  simp only [afterTurn, asks, succeeds, if_true, patched]

/-- Calls that patch a stored run with the identifier of a check, and with no other, leave it with
that one. -/
theorem checkId?_afterTurns (present : store.run? key ≠ none)
    (same : ∀ turn ∈ turns, ∀ run patch, turn.question = .patch run patch →
      ∃ logUrl, patch = .forCheck id logUrl)
    (patched : store.checkId? key = some id ∨ ∃ turn ∈ turns, turn.Patched key) :
    (store.afterTurns turns).checkId? key = some id := by
  induction turns generalizing store with
  | nil => exact patched.resolve_right (by simp)
  | cons turn rest ih =>
    obtain ⟨here, later⟩ := List.forall_mem_cons.1 same
    by_cases patches : turn.Patched key
    · obtain ⟨run, patch, asks, rfl, succeeds⟩ := patches
      obtain ⟨logUrl, rfl⟩ := here run patch asks
      obtain ⟨stored, found⟩ := Option.ne_none_iff_exists'.1 present
      have written : (store.afterTurn turn).run? run.key =
          some ((MetadataPatch.forCheck id logUrl).applyTo stored) := by
        rw [run?_afterTurn_of_patch asks succeeds, found, Option.map_some]
      refine ih (by simp [written]) later (.inl ?_)
      rw [checkId?, written, Option.bind_some, MetadataPatch.checkId?_applyTo_forCheck]
    · have kept : (store.afterTurn turn).run? key = store.run? key := run?_afterTurn patches
      refine ih (by rwa [kept]) later (patched.imp (fun known => ?_) fun ⟨other, member, does⟩ => ?_)
      · rwa [checkId?, kept]
      · exact ⟨other, (List.mem_cons.1 member).resolve_left fun eq => patches (eq ▸ does), does⟩

/-- Whether every stored run has a claim on the check on its label. -/
def Owned (owns : UInt64 → String → Prop) (store : RunStore) : Prop :=
  ∀ key id, store.checkId? key = some id → owns id key.name

/-- Claims are respected as long as every run that is patched has a claim on the check. -/
theorem owned_afterTurns {owns : UInt64 → String → Prop} (owned : store.Owned owns)
    (written : ∀ turn ∈ turns, ∀ run patch, turn.question = .patch run patch →
      ∃ id logUrl, patch = .forCheck id logUrl ∧ owns id run.name) :
    (store.afterTurns turns).Owned owns := by
  induction turns generalizing store with
  | nil => exact owned
  | cons turn rest ih =>
    obtain ⟨here, later⟩ := List.forall_mem_cons.1 written
    refine ih (fun key id known => ?_) later
    by_cases patches : turn.Patched key
    · obtain ⟨run, patch, asks, rfl, succeeds⟩ := patches
      obtain ⟨fresh, logUrl, rfl, claimed⟩ := here run patch asks
      obtain ⟨stored, found, holds⟩ := Option.bind_eq_some_iff.1 known
      rw [run?_afterTurn_of_patch asks succeeds] at found
      obtain ⟨old, -, rfl⟩ := Option.map_eq_some_iff.1 found
      rw [MetadataPatch.checkId?_applyTo_forCheck] at holds
      obtain rfl := Option.some.inj holds
      exact claimed
    · refine owned key id ?_
      rwa [checkId?, run?_afterTurn patches] at known

/-! ## What an episode does to a stored run -/

variable {episode : Episode}

/-- A stored run that has a label is not changed by an episode that is given the stored runs. -/
theorem run?_afterTurns_of_label (genuine : episode.Genuine) (supplies : store.Supplies episode)
    (label : store.checkIdText? key ≠ none) :
    (store.afterTurns episode.turns).run? key = store.run? key := by
  refine run?_afterTurns fun turn member => ?_
  rintro ⟨run, patch, asks, rfl, -⟩
  obtain ⟨given, unlabelled, -⟩ := genuine.of_patch member asks
  rw [checkIdText?, supplies run given, Option.bind_some] at label
  exact label unlabelled

/-- After a patch that succeeded, the stored run has the check of the episode. -/
theorem checkId?_afterTurns_of_patched (genuine : episode.Genuine)
    (supplies : store.Supplies episode) {turn : CallTurn} (member : turn ∈ episode.turns)
    (patched : turn.Patched key) : ∃ id, CarriesOnly id episode.turns ∧
      CheckMode.Provided id episode.turns ∧
        (store.afterTurns episode.turns).checkId? key = some id := by
  obtain ⟨run, patch, asks, rfl, succeeds⟩ := patched
  obtain ⟨given, -, id, logUrl, rfl, only, provided⟩ := genuine.of_patch member asks
  refine ⟨id, only, provided, checkId?_afterTurns ?_ ?_ (.inr ⟨turn, member, run, _, asks, rfl, succeeds⟩)⟩
  · simp [supplies run given]
  · intro other among run patch asks
    obtain ⟨-, -, same, logUrl, rfl, -⟩ := genuine.of_patch among asks
    have carries := only other among (.inl (by rw [asks]; rfl))
    rw [asks, Call.checkId?, MetadataPatch.checkId?_forCheck] at carries
    obtain rfl := Option.some.inj carries
    exact ⟨logUrl, rfl⟩

end RunStore
end CommitChecks

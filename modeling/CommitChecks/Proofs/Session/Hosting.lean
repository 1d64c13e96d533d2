import CommitChecks.Proofs.CallTurn
import CommitChecks.Rehearsal
import Mathlib.Data.List.Nodup

/-!
# A hosting service over a session

The hosting service keeps checks under identifiers of their own. It lists none but its own checks, a
creation adds a check under a fresh identifier, an update overwrites the check it is for, and nothing
else changes it. So a check is first known under one name at most, and if all names written to checks
have a claim on them, so have all names that are found there.
-/

namespace CommitChecks
namespace Hosting

/-- The checks after a call. A call that fails changes nothing. -/
def afterTurn (checks : List ExistingCheck) : CallTurn → List ExistingCheck
  | ⟨.create _ check, .ok id⟩ => checks ++ [⟨id, some check.externalId, none, none⟩]
  | ⟨.update _ id contents, .ok _⟩ => Rehearsal.overwriteFirst id contents checks
  | _ => checks

/-- The checks after calls. -/
def afterTurns (checks : List ExistingCheck) (turns : List CallTurn) : List ExistingCheck :=
  turns.foldl afterTurn checks

/-- Whether a reply is one that a hosting service with these checks can give. -/
def Truthful (checks : List ExistingCheck) (turn : CallTurn) : Prop :=
  turn.listed ⊆ checks ∧ ∀ id, turn.createdId? = some id → id ∉ checks.map ExistingCheck.id

/-- Whether all replies are ones that a hosting service with these checks at first can give. -/
def Replies : List ExistingCheck → List CallTurn → Prop
  | _, [] => True
  | checks, turn :: rest => Truthful checks turn ∧ Replies (afterTurn checks turn) rest

-- The identifiers are too many to be tried one by one, so only the one that was created is looked at.
instance (checks : List ExistingCheck) (turn : CallTurn) : Decidable (Truthful checks turn) :=
  decidable_of_iff
    (turn.listed ⊆ checks ∧
      turn.createdId?.all (fun id => decide (id ∉ checks.map ExistingCheck.id)) = true)
    (by simp [Truthful, Option.all_eq_true])

instance decidableReplies : (checks : List ExistingCheck) → (turns : List CallTurn) →
    Decidable (Replies checks turns)
  | _, [] => inferInstanceAs (Decidable True)
  | checks, turn :: rest =>
    have := decidableReplies (afterTurn checks turn) rest
    inferInstanceAs (Decidable (_ ∧ _))

theorem replies_append {checks : List ExistingCheck} {earlier later : List CallTurn} :
    Replies checks (earlier ++ later) ↔
      Replies checks earlier ∧ Replies (afterTurns checks earlier) later := by
  induction earlier generalizing checks with
  | nil => simp [Replies, afterTurns]
  | cons turn rest ih =>
    simp only [List.cons_append, Replies, ih, and_assoc, afterTurns, List.foldl_cons]

/-! ## What an update does to the checks -/

theorem map_id_overwriteFirst (id : UInt64) (contents : CheckUpdate) (checks : List ExistingCheck) :
    (Rehearsal.overwriteFirst id contents checks).map ExistingCheck.id =
      checks.map ExistingCheck.id := by
  induction checks with
  | nil => rfl
  | cons check rest ih =>
    rw [Rehearsal.overwriteFirst]
    split
    · rfl
    · rw [List.map_cons, List.map_cons, ih]

theorem mem_overwriteFirst {id : UInt64} {contents : CheckUpdate} {checks : List ExistingCheck}
    {check : ExistingCheck} (member : check ∈ Rehearsal.overwriteFirst id contents checks) :
    check ∈ checks ∨ ∃ old ∈ checks, old.id = id ∧ check = Rehearsal.overwritten old contents := by
  induction checks with
  | nil => exact nomatch member
  | cons first rest ih =>
    rw [Rehearsal.overwriteFirst] at member
    split at member
    · rename_i same
      rcases List.mem_cons.1 member with rfl | later
      · exact .inr ⟨first, List.mem_cons_self, same, rfl⟩
      · exact .inl (List.mem_cons_of_mem _ later)
    · rcases List.mem_cons.1 member with rfl | later
      · exact .inl List.mem_cons_self
      · obtain kept | ⟨old, present, found⟩ := ih later
        · exact .inl (List.mem_cons_of_mem _ kept)
        · exact .inr ⟨old, List.mem_cons_of_mem _ present, found⟩

variable {checks : List ExistingCheck} {turn : CallTurn} {turns : List CallTurn}

/-- No call removes a check. -/
theorem map_id_subset_afterTurn :
    checks.map ExistingCheck.id ⊆ (afterTurn checks turn).map ExistingCheck.id := by
  unfold afterTurn
  split
  · rw [List.map_append]
    exact List.subset_append_left _ _
  · rw [map_id_overwriteFirst]
    exact List.Subset.refl _
  · exact List.Subset.refl _

/-- A check that was created is there from then on. -/
theorem mem_map_id_afterTurn {id : UInt64} (created : turn.createdId? = some id) :
    id ∈ (afterTurn checks turn).map ExistingCheck.id := by
  obtain ⟨question, answer⟩ := turn
  cases question with
  | create event check =>
    cases answer with
    | ok fresh =>
      obtain rfl := Option.some.inj created
      rw [afterTurn, List.map_append]
      exact List.mem_append_right _ List.mem_cons_self
    | error => exact nomatch created
  | _ => exact nomatch created

/-- A check carries an external identifier that it had before, or one that the call has just given to
it. -/
theorem externalId_afterTurn {check : ExistingCheck} (member : check ∈ afterTurn checks turn)
    {name : String} (named : check.externalId = some name) :
    (∃ old ∈ checks, old.id = check.id ∧ old.externalId = some name) ∨
      turn.question.externalId? = some name ∧
        (turn.createdId? = some check.id ∨ turn.question.checkId? = some check.id) := by
  unfold afterTurn at member
  split at member
  · rcases List.mem_append.1 member with present | added
    · exact .inl ⟨check, present, rfl, named⟩
    · obtain rfl := List.mem_singleton.1 added
      exact .inr ⟨named, .inl rfl⟩
  · obtain present | ⟨old, present, same, rfl⟩ := mem_overwriteFirst member
    · exact .inl ⟨check, present, rfl, named⟩
    · rename_i contents _
      rw [Rehearsal.overwritten, Option.or_eq_some_iff] at named
      obtain given | ⟨-, kept⟩ := named
      · exact .inr ⟨given, .inr (congrArg some same.symm)⟩
      · exact .inl ⟨old, present, rfl, kept⟩
  · exact .inl ⟨check, member, rfl, named⟩

/-! ## Names and who has a claim on a check -/

/-- Whether a check carried a name when it was first known: from the start, or when it was created. -/
def FirstKnownAs (checks : List ExistingCheck) (turns : List CallTurn) (id : UInt64)
    (name : String) : Prop :=
  (∃ check ∈ checks, check.id = id ∧ check.externalId = some name) ∨
    ∃ turn ∈ turns, turn.createdId? = some id ∧ turn.question.externalId? = some name

theorem not_mem_of_createdId? (replies : Replies checks turns) (member : turn ∈ turns) {id : UInt64}
    (created : turn.createdId? = some id) : id ∉ checks.map ExistingCheck.id := by
  induction turns generalizing checks with
  | nil => exact nomatch member
  | cons head rest ih =>
    obtain ⟨truthful, replies⟩ := replies
    rcases List.mem_cons.1 member with rfl | later
    · exact truthful.2 id created
    · exact fun present => ih replies later (map_id_subset_afterTurn present)

/-- No identifier is given to two checks. -/
theorem eq_of_createdId? (replies : Replies checks turns) {other : CallTurn} (member : turn ∈ turns)
    (among : other ∈ turns) {id : UInt64} (created : turn.createdId? = some id)
    (again : other.createdId? = some id) : turn = other := by
  induction turns generalizing checks with
  | nil => exact nomatch member
  | cons head rest ih =>
    obtain ⟨-, replies⟩ := replies
    rcases List.mem_cons.1 member with rfl | later
    · rcases List.mem_cons.1 among with rfl | later
      · rfl
      · exact absurd (mem_map_id_afterTurn created) (not_mem_of_createdId? replies later again)
    · rcases List.mem_cons.1 among with rfl | alsoLater
      · exact absurd (mem_map_id_afterTurn again) (not_mem_of_createdId? replies later created)
      · exact ih replies later alsoLater

/-- A check is first known under one name at most. -/
theorem firstKnownAs_unique (unique : (checks.map ExistingCheck.id).Nodup)
    (replies : Replies checks turns) {id : UInt64} {name other : String}
    (known : FirstKnownAs checks turns id name) (also : FirstKnownAs checks turns id other) :
    name = other := by
  obtain ⟨check, present, rfl, named⟩ | ⟨turn, member, created, gives⟩ := known
  · obtain ⟨second, among, same, named'⟩ | ⟨turn, member, created, -⟩ := also
    · obtain rfl := List.inj_on_of_nodup_map unique among present same
      exact Option.some.inj (named.symm.trans named')
    · exact absurd (List.mem_map_of_mem present) (not_mem_of_createdId? replies member created)
  · obtain ⟨check, present, rfl, -⟩ | ⟨second, among, again, gives'⟩ := also
    · exact absurd (List.mem_map_of_mem present) (not_mem_of_createdId? replies member created)
    · obtain rfl := eq_of_createdId? replies member among created again
      exact Option.some.inj (gives.symm.trans gives')

/-- Whether every name on a check has a claim on it. -/
def Owned (owns : UInt64 → String → Prop) (checks : List ExistingCheck) : Prop :=
  ∀ check ∈ checks, ∀ name, check.externalId = some name → owns check.id name

/-- Claims are respected as long as every name that is written to a check has a claim on it. -/
theorem owned_afterTurns {owns : UInt64 → String → Prop} (owned : Owned owns checks)
    (written : ∀ turn ∈ turns, ∀ id name, turn.question.externalId? = some name →
      turn.createdId? = some id ∨ turn.question.checkId? = some id → owns id name) :
    Owned owns (afterTurns checks turns) := by
  induction turns generalizing checks with
  | nil => exact owned
  | cons turn rest ih =>
    obtain ⟨here, later⟩ := List.forall_mem_cons.1 written
    refine ih (fun check member name named => ?_) later
    obtain ⟨old, present, same, kept⟩ | ⟨gives, on⟩ := externalId_afterTurn member named
    · exact same ▸ owned old present name kept
    · exact here check.id name gives on

end Hosting
end CommitChecks

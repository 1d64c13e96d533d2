import CommitChecks.Reconciler.CheckMode

/-!
# Choosing a check

The search for a check of a run stops at the first listed check that is usable: one that carries the
run's name as external identifier, or, while the skip slot is free, the check of a skipped run. The
slot changes only by the search that comes upon such a skipped check, and then holds that check.
-/

namespace CommitChecks

/-- A text holds a phrase exactly when the phrase stands in it without a gap. -/
theorem holdsPhrase_iff (phrase text : List Char) :
    holdsPhrase phrase text = true ↔ phrase <:+: text := by
  induction text with
  | nil => simp [holdsPhrase]
  | cons c rest ih =>
    rw [holdsPhrase, Bool.or_eq_true, ih, List.isPrefixOf_iff_prefix, List.infix_cons_iff]

theorem ExistingCheck.isSkipped_iff (check : ExistingCheck) :
    check.isSkipped = true ↔ check.title = some "Skipped" ∧
      ∃ summary, check.summary = some summary ∧
        "is skipping this commit".toList <:+: summary.toList := by
  rw [isSkipped, Bool.and_eq_true, decide_eq_true_eq, Option.any_eq_true]
  simp only [holdsPhrase_iff, Conclusion.skippedTitle, Conclusion.skippedPhrase]

namespace SkipSlot

/-- A claim changes the slot only by filling an empty one with the candidate. -/
theorem claim_snd (slot : SkipSlot) (candidate : UInt64) :
    (slot.claim candidate).2 = if slot = empty then ⟨some candidate⟩ else slot := by
  obtain ⟨claimed⟩ := slot
  cases claimed <;> simp [claim, empty]

end SkipSlot

namespace CheckMode

/-- A listed check that a run may use, given the skip slot before the search. -/
def Usable (runName : String) (slot : SkipSlot) (check : ExistingCheck) : Prop :=
  slot = .empty ∧ check.isSkipped = true ∨ check.externalId = some runName

instance (runName : String) (slot : SkipSlot) : DecidablePred (Usable runName slot) :=
  fun _ => inferInstanceAs (Decidable (_ ∨ _))

theorem usable_of_find? {runName : String} {slot : SkipSlot} {checks : List ExistingCheck}
    {check : ExistingCheck} (found : checks.find? (Usable runName slot ·) = some check) :
    Usable runName slot check := by
  simpa using List.find?_some found

/-- How the search ends at a usable check. A skipped check is taken over while the slot is free, even
if it carries the name of the run as well. -/
def settle (slot : SkipSlot) (check : ExistingCheck) : (UInt64 × Reason) × SkipSlot :=
  if slot = .empty ∧ check.isSkipped = true then ((check.id, .skipped), ⟨some check.id⟩)
  else ((check.id, .externalId), slot)

/-- The search settles on the first usable check and otherwise leaves the slot alone. -/
theorem choose_eq (runName : String) (slot : SkipSlot) (checks : List ExistingCheck) :
    choose runName slot checks =
      match checks.find? (Usable runName slot ·) with
      | some check => (some (settle slot check).1, (settle slot check).2)
      | none => (none, slot) := by
  induction checks with
  | nil => rfl
  | cons check rest ih =>
    simp only [choose, SkipSlot.claim_won_iff, SkipSlot.claim_snd, List.find?_cons]
    by_cases taken : check.isSkipped = true ∧ slot = .empty
    · obtain ⟨skipped, rfl⟩ := taken
      have usable : Usable runName .empty check := .inl ⟨rfl, skipped⟩
      simp [skipped, usable, settle]
    · have untaken : ¬ (slot = .empty ∧ check.isSkipped = true) := fun both => taken both.symm
      by_cases named : check.externalId = some runName
      · have usable : Usable runName slot check := .inr named
        simp [taken, untaken, named, usable, settle]
      · have unusable : ¬ Usable runName slot check := fun usable => usable.elim untaken named
        simp [taken, named, unusable, ih]

/-- The search gives the identifier of the first usable check. -/
theorem choose_fst (runName : String) (slot : SkipSlot) (checks : List ExistingCheck) :
    (choose runName slot checks).1.map Prod.fst =
      (checks.find? (Usable runName slot ·)).map ExistingCheck.id := by
  rw [choose_eq]
  cases checks.find? (Usable runName slot ·) with
  | none => rfl
  | some check =>
    simp only [settle]
    split <;> rfl

/-- The search finds nothing exactly when no listed check is usable, and then leaves the slot alone. -/
theorem choose_eq_none_iff {runName : String} {slot after : SkipSlot} {checks : List ExistingCheck} :
    choose runName slot checks = (none, after) ↔
      after = slot ∧ ∀ check ∈ checks, ¬ Usable runName slot check := by
  rw [choose_eq]
  cases found : checks.find? (Usable runName slot ·) with
  | none =>
    have free : ∀ check ∈ checks, ¬ Usable runName slot check := by
      simpa using List.find?_eq_none.1 found
    simp only [Prod.mk.injEq, true_and]
    exact ⟨fun same => ⟨same.symm, free⟩, fun unchanged => unchanged.1.symm⟩
  | some check =>
    have usable := usable_of_find? found
    constructor
    · intro choice
      simp at choice
    · rintro ⟨-, free⟩
      exact absurd usable (free check (List.mem_of_find?_eq_some found))

/-- The skip slot once a check was chosen: that of a skipped run fills it if it is empty. -/
def slotAfter (slot : SkipSlot) (chosen : ExistingCheck) : SkipSlot :=
  if slot = .empty ∧ chosen.isSkipped = true then ⟨some chosen.id⟩ else slot

/-- What the search settles on is the first usable check. -/
theorem find?_of_choose {runName : String} {slot after : SkipSlot} {checks : List ExistingCheck}
    {id : UInt64} {reason : Reason} (choice : choose runName slot checks = (some (id, reason), after)) :
    ∃ check, checks.find? (Usable runName slot ·) = some check ∧ check.id = id ∧
      after = slotAfter slot check := by
  rw [choose_eq] at choice
  cases found : checks.find? (Usable runName slot ·) with
  | none => simp [found] at choice
  | some check =>
    refine ⟨check, rfl, ?_⟩
    simp only [found, settle] at choice
    split at choice
    · rename_i taken
      simp only [Prod.mk.injEq, Option.some.injEq] at choice
      obtain ⟨⟨rfl, -⟩, rfl⟩ := choice
      exact ⟨rfl, (if_pos taken).symm⟩
    · rename_i untaken
      simp only [Prod.mk.injEq, Option.some.injEq] at choice
      obtain ⟨⟨rfl, -⟩, rfl⟩ := choice
      exact ⟨rfl, (if_neg untaken).symm⟩

/-- What the search settles on is a listed check: either one that carries the name of the run, and the
slot stays as it was, or a skipped one that fills the empty slot. -/
theorem choose_eq_some {runName : String} {slot after : SkipSlot} {checks : List ExistingCheck}
    {id : UInt64} {reason : Reason} (choice : choose runName slot checks = (some (id, reason), after)) :
    ∃ check ∈ checks, check.id = id ∧
      (check.externalId = some runName ∧ after = slot ∨
        slot = .empty ∧ check.isSkipped = true ∧ after = ⟨some id⟩) := by
  obtain ⟨check, found, rfl, filled⟩ := find?_of_choose choice
  have usable := usable_of_find? found
  refine ⟨check, List.mem_of_find?_eq_some found, rfl, ?_⟩
  by_cases taken : slot = .empty ∧ check.isSkipped = true
  · rw [slotAfter, if_pos taken] at filled
    exact .inr ⟨taken.1, taken.2, filled⟩
  · rw [slotAfter, if_neg taken] at filled
    exact .inl ⟨usable.resolve_left taken, filled⟩

/-- A listing in which a check is usable has a first usable one. -/
theorem exists_first_usable {runName : String} {slot : SkipSlot} {checks : List ExistingCheck}
    {check : ExistingCheck} (present : check ∈ checks) (usable : Usable runName slot check) :
    ∃ before first after, checks = before ++ first :: after ∧
      (∀ other ∈ before, ¬ Usable runName slot other) ∧ Usable runName slot first := by
  cases found : checks.find? (Usable runName slot ·) with
  | none => exact absurd (decide_eq_true usable) (List.find?_eq_none.1 found check present)
  | some first =>
    obtain ⟨suits, before, after, split, unsuited⟩ := List.find?_eq_some_iff_append.1 found
    exact ⟨before, first, after, split, by simpa using unsuited, of_decide_eq_true suits⟩

/-- The search for a usable check finds the first one. -/
theorem find?_of_first_usable {runName : String} {slot : SkipSlot} {before : List ExistingCheck}
    {first : ExistingCheck} (after : List ExistingCheck)
    (unusable : ∀ other ∈ before, ¬ Usable runName slot other)
    (usable : Usable runName slot first) :
    (before ++ first :: after).find? (Usable runName slot ·) = some first :=
  List.find?_eq_some_iff_append.2
    ⟨decide_eq_true usable, before, after, rfl, by simpa using unusable⟩

/-- While the skip slot is taken, the search comes to the first check with the name of the run. -/
theorem choose_append_cons {name : String} {slot : SkipSlot} {check : ExistingCheck}
    {before after : List ExistingCheck} (taken : slot ≠ .empty) (others : ∀ other ∈ before, other.externalId ≠ some name)
    (named : check.externalId = some name) :
    choose name slot (before ++ check :: after) = (some (check.id, .externalId), slot) := by
  have unusable : ∀ other ∈ before, ¬ Usable name slot other := by
    rintro other member (⟨free, -⟩ | same)
    · exact taken free
    · exact others other member same
  rw [choose_eq, find?_of_first_usable after unusable (.inr named)]
  simp [settle, taken]

end CheckMode
end CommitChecks

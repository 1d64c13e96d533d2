/-!
# The skip slot

When a batch of commits is skipped, each of them gets a check that says so. The first run of a
session that comes upon such a check takes it over; the slot remembers which one it was and is
never filled again.
-/

namespace CommitChecks

/-- The check that was taken over in a session, if any. -/
structure SkipSlot where
  claimed : Option UInt64
  deriving DecidableEq

namespace SkipSlot

/-- The slot at the start of a session. -/
def empty : SkipSlot :=
  ⟨none⟩

/-- Claims the slot for a check: whether the claim won, and the slot afterwards. -/
def claim (slot : SkipSlot) (candidate : UInt64) : Bool × SkipSlot :=
  match slot.claimed with
  | some _ => (false, slot)
  | none => (true, ⟨some candidate⟩)

/-- A claim wins exactly when the slot is empty. -/
theorem claim_won_iff (slot : SkipSlot) (candidate : UInt64) :
    (slot.claim candidate).1 = true ↔ slot = empty := by
  obtain ⟨claimed⟩ := slot
  cases claimed <;> simp [claim, empty]

/-- A full slot never changes. -/
theorem claim_of_claimed {slot : SkipSlot} {owner : UInt64} (full : slot.claimed = some owner)
    (candidate : UInt64) : slot.claim candidate = (false, slot) := by
  rw [claim, full]

end SkipSlot
end CommitChecks

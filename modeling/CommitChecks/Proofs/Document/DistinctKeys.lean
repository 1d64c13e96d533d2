import CommitChecks.Document.Entries
import Mathlib.Data.List.Nodup

/-!
# Entries with distinct keys

Entries with distinct keys hold what stands under their keys and nothing else.
-/

namespace CommitChecks

variable {α : Type} {entries : List (String × α)} {key : String} {value : α}

theorem lookup_eq_none_iff_not_mem : entries.lookup key = none ↔ key ∉ entries.map Prod.fst := by
  induction entries with
  | nil => simp
  | cons entry rest ih =>
    obtain ⟨other, old⟩ := entry
    rw [lookup_cons_eq_ite]
    by_cases here : key = other
    · simp [here]
    · rw [if_neg here, ih, List.map_cons, List.mem_cons, not_or, and_iff_right here]

theorem mem_of_lookup (found : entries.lookup key = some value) : (key, value) ∈ entries := by
  obtain ⟨before, after, rfl, -⟩ := List.lookup_eq_some_iff.1 found
  exact List.mem_append_right before List.mem_cons_self

/-- Where keys are distinct, an entry is what stands under its key. -/
theorem lookup_eq_some_iff_mem (distinct : (entries.map Prod.fst).Nodup) :
    entries.lookup key = some value ↔ (key, value) ∈ entries := by
  refine ⟨mem_of_lookup, fun member => ?_⟩
  cases found : entries.lookup key with
  | none => exact absurd (List.mem_map_of_mem member) (lookup_eq_none_iff_not_mem.1 found)
  | some other =>
    have same : (key, other) = (key, value) :=
      List.inj_on_of_nodup_map distinct (mem_of_lookup found) member rfl
    rw [(Prod.mk.inj same).2]

end CommitChecks

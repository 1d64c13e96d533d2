/-!
# Entries in ascending order of keys

A list of entries whose keys ascend holds one value per key. Putting an entry into such a list keeps
the order, and looking a key up afterwards finds the new value under its own key and the old values
under all others.
-/

namespace CommitChecks

/-- Entries whose keys ascend. -/
abbrev Ascending {α : Type} (entries : List (String × α)) : Prop :=
  entries.Pairwise fun first second => first.1 < second.1

/-- Puts an entry into a list in ascending order of keys, replacing an entry of the same key. -/
def insertEntry {α : Type} (key : String) (value : α) : List (String × α) → List (String × α)
  | [] => [(key, value)]
  | (other, old) :: rest =>
    if key < other then (key, value) :: (other, old) :: rest
    else if key = other then (key, value) :: rest
    else (other, old) :: insertEntry key value rest

variable {α : Type}

theorem mem_insertEntry {key : String} {value : α} {entries : List (String × α)}
    {entry : String × α} (member : entry ∈ insertEntry key value entries) :
    entry = (key, value) ∨ entry ∈ entries := by
  induction entries with
  | nil => exact Or.inl (List.mem_singleton.1 member)
  | cons first rest ih =>
    obtain ⟨other, old⟩ := first
    rw [insertEntry] at member
    split at member
    · exact List.mem_cons.1 member
    · split at member
      · exact (List.mem_cons.1 member).imp_right (List.mem_cons_of_mem _)
      · rcases List.mem_cons.1 member with rfl | later
        · exact Or.inr List.mem_cons_self
        · exact (ih later).imp_right (List.mem_cons_of_mem _)

theorem ascending_insertEntry (key : String) (value : α) {entries : List (String × α)}
    (ascending : Ascending entries) : Ascending (insertEntry key value entries) := by
  induction entries with
  | nil => exact List.pairwise_singleton _ _
  | cons first rest ih =>
    obtain ⟨other, old⟩ := first
    obtain ⟨above, restAscending⟩ := List.pairwise_cons.1 ascending
    rw [insertEntry]
    split
    · rename_i less
      refine List.pairwise_cons.2 ⟨fun entry member => ?_, ascending⟩
      rcases List.mem_cons.1 member with rfl | later
      · exact less
      · exact String.lt_trans less (above entry later)
    · split
      · rename_i same
        subst same
        exact List.pairwise_cons.2 ⟨above, restAscending⟩
      · rename_i notLess notSame
        refine List.pairwise_cons.2 ⟨fun entry member => ?_, ih restAscending⟩
        rcases mem_insertEntry member with rfl | later
        · exact (Std.lt_trichotomy other key).resolve_right
            fun other => other.elim (fun same => notSame same.symm) notLess
        · exact above entry later

theorem lookup_cons_eq_ite (wanted other : String) (old : α) (rest : List (String × α)) :
    ((other, old) :: rest).lookup wanted =
      if wanted = other then some old else rest.lookup wanted := by
  by_cases same : wanted = other
  · simp [same]
  · have differ : (wanted == other) = false := beq_eq_false_iff_ne.2 same
    simp [List.lookup_cons, differ, same]

/-- Looking a key up after an entry was put in. -/
theorem lookup_insertEntry (key wanted : String) (value : α) (entries : List (String × α)) :
    (insertEntry key value entries).lookup wanted =
      if wanted = key then some value else entries.lookup wanted := by
  induction entries with
  | nil => rw [insertEntry, lookup_cons_eq_ite]
  | cons first rest ih =>
    obtain ⟨other, old⟩ := first
    rw [insertEntry, lookup_cons_eq_ite]
    split
    · rw [lookup_cons_eq_ite, lookup_cons_eq_ite]
    · split
      · rename_i same
        rw [lookup_cons_eq_ite, ← same]
        split <;> rfl
      · rename_i differ
        rw [lookup_cons_eq_ite, ih]
        by_cases same : wanted = key
        · subst same
          rw [if_neg differ, if_pos rfl, if_pos rfl]
        · rw [if_neg same, if_neg same]

/-- An entry whose key is above all others is put at the end. -/
theorem insertEntry_of_above {key : String} {value : α} {entries : List (String × α)}
    (above : ∀ entry ∈ entries, entry.1 < key) :
    insertEntry key value entries = entries ++ [(key, value)] := by
  induction entries with
  | nil => rfl
  | cons first rest ih =>
    obtain ⟨other, old⟩ := first
    obtain ⟨below, later⟩ := List.forall_mem_cons.1 above
    have notLess : ¬ key < other := String.lt_asymm below
    have differ : key ≠ other := fun same => String.lt_irrefl key (same ▸ below)
    rw [insertEntry, if_neg notLess, if_neg differ, ih later, List.cons_append]

/-- Entries in ascending order that go on above others are put behind them as they are. -/
theorem foldl_insertEntry {done entries : List (String × α)} (ascending : Ascending (done ++ entries)) :
    entries.foldl (fun done entry => insertEntry entry.1 entry.2 done) done = done ++ entries := by
  induction entries generalizing done with
  | nil => exact (List.append_nil done).symm
  | cons entry rest ih =>
    obtain ⟨key, value⟩ := entry
    have above : ∀ entry ∈ done, entry.1 < key := fun entry member =>
      (List.pairwise_append.1 ascending).2.2 entry member (key, value) List.mem_cons_self
    rw [← List.singleton_append, ← List.append_assoc] at ascending ⊢
    rw [List.singleton_append, List.foldl_cons, insertEntry_of_above above]
    exact ih ascending

end CommitChecks

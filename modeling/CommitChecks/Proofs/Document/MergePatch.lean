import CommitChecks.Document.Value
import CommitChecks.Proofs.Document.DistinctKeys

/-!
# Merge patches

A stored document is changed by a merge patch: a document that gives, at the place where it stands in
it, what is to be put there, and null for what is to be taken away. Records are merged entry by entry,
anything else replaces what was there. `lookup_mergeEntries` says what stands under every key afterwards.
-/

namespace CommitChecks

section
variable {α : Type}

/-- Sets an entry in its place, or at the end if there is none of its key. -/
def setEntry (key : String) (value : α) : List (String × α) → List (String × α)
  | [] => [(key, value)]
  | (other, old) :: rest =>
    if key = other then (key, value) :: rest else (other, old) :: setEntry key value rest

/-- Takes the entries of a key away. -/
def removeEntry (key : String) (entries : List (String × α)) : List (String × α) :=
  entries.filter fun entry => entry.1 ≠ key

theorem lookup_setEntry (key wanted : String) (value : α) (entries : List (String × α)) :
    (setEntry key value entries).lookup wanted =
      if wanted = key then some value else entries.lookup wanted := by
  induction entries with
  | nil => rw [setEntry, lookup_cons_eq_ite]
  | cons entry rest ih =>
    obtain ⟨other, old⟩ := entry
    rw [setEntry]
    split
    · rename_i same
      rw [lookup_cons_eq_ite, lookup_cons_eq_ite, ← same]
      split <;> rfl
    · rename_i differ
      rw [lookup_cons_eq_ite, lookup_cons_eq_ite, ih]
      by_cases here : wanted = key
      · rw [if_pos here, if_neg (here ▸ differ), if_pos here]
      · rw [if_neg here, if_neg here]

theorem lookup_removeEntry (key wanted : String) (entries : List (String × α)) :
    (removeEntry key entries).lookup wanted =
      if wanted = key then none else entries.lookup wanted := by
  induction entries with
  | nil => simp [removeEntry]
  | cons entry rest ih =>
    obtain ⟨other, old⟩ := entry
    rw [removeEntry] at ih ⊢
    by_cases same : other = key
    · rw [List.filter_cons_of_neg (by simpa using same), ih, lookup_cons_eq_ite, ← same]
      split <;> rfl
    · rw [List.filter_cons_of_pos (by simpa using same), lookup_cons_eq_ite, lookup_cons_eq_ite, ih]
      by_cases here : wanted = key
      · rw [if_neg fun there => same (there.symm.trans here), if_pos here, if_pos here]
      · rw [if_neg here, if_neg here]

theorem mem_keys_setEntry {key other : String} {value : α} {entries : List (String × α)}
    (member : other ∈ (setEntry key value entries).map Prod.fst) :
    other = key ∨ other ∈ entries.map Prod.fst := by
  induction entries with
  | nil => exact .inl (List.mem_singleton.1 member)
  | cons entry rest ih =>
    obtain ⟨first, old⟩ := entry
    rw [setEntry] at member
    split at member
    · exact (List.mem_cons.1 member).imp_right (List.mem_cons_of_mem _)
    · rcases List.mem_cons.1 member with rfl | later
      · exact .inr List.mem_cons_self
      · exact (ih later).imp_right (List.mem_cons_of_mem _)

theorem nodup_setEntry (key : String) (value : α) {entries : List (String × α)}
    (distinct : (entries.map Prod.fst).Nodup) : ((setEntry key value entries).map Prod.fst).Nodup := by
  induction entries with
  | nil => exact List.nodup_singleton key
  | cons entry rest ih =>
    obtain ⟨other, old⟩ := entry
    obtain ⟨single, others⟩ := List.nodup_cons.1 distinct
    rw [setEntry]
    split
    · rename_i same
      exact List.nodup_cons.2 ⟨same ▸ single, others⟩
    · rename_i differ
      refine List.nodup_cons.2 ⟨fun member => ?_, ih others⟩
      exact (mem_keys_setEntry member).elim (fun same => differ same.symm) single

theorem nodup_removeEntry (key : String) {entries : List (String × α)}
    (distinct : (entries.map Prod.fst).Nodup) : ((removeEntry key entries).map Prod.fst).Nodup :=
  distinct.sublist (List.filter_sublist.map Prod.fst)

end

namespace Value

/-- The entries of a record. Anything else counts as a record without entries. -/
def recordEntries : Value → List (String × Value)
  | record entries => entries
  | _ => []

mutual

/-- A document with a merge patch applied. -/
def mergePatch (target : Value) : Value → Value
  | record changes => record (mergeEntries target.recordEntries changes)
  | change => change

/-- The entries of a record with those of a merge patch applied, one after the other. -/
def mergeEntries (entries : List (String × Value)) :
    List (String × Value) → List (String × Value)
  | [] => entries
  | (key, null) :: rest => mergeEntries (removeEntry key entries) rest
  | (key, change) :: rest =>
    mergeEntries (setEntry key (mergePatch ((entries.lookup key).getD null) change) entries) rest

end

/-- What a merge patch leaves under a key, of what it says about the key and what was there. -/
def merged (change old : Option Value) : Option Value :=
  match change with
  | none => old
  | some null => none
  | some change => some (mergePatch (old.getD null) change)

variable {entries changes : List (String × Value)}

/-- An entry of a merge patch changes what stands under its key alone. -/
theorem exists_mergeEntries_cons (key : String) (change : Value) (entries : List (String × Value)) :
    ∃ entries', (∀ rest, mergeEntries entries ((key, change) :: rest) = mergeEntries entries' rest) ∧
      (∀ wanted, entries'.lookup wanted =
        if wanted = key then merged (some change) (entries.lookup key) else entries.lookup wanted) ∧
      ((entries.map Prod.fst).Nodup → (entries'.map Prod.fst).Nodup) := by
  cases change with
  | null =>
    exact ⟨removeEntry key entries, fun rest => rfl, (lookup_removeEntry key · entries), nodup_removeEntry key⟩
  | _ =>
    exact ⟨setEntry key _ entries, fun rest => rfl, (lookup_setEntry key · _ entries), nodup_setEntry key _⟩

/-- What stands under a key after a merge. -/
theorem lookup_mergeEntries (distinct : (changes.map Prod.fst).Nodup) (key : String) :
    (mergeEntries entries changes).lookup key = merged (changes.lookup key) (entries.lookup key) := by
  induction changes generalizing entries with
  | nil => rfl
  | cons entry rest ih =>
    obtain ⟨first, change⟩ := entry
    obtain ⟨single, others⟩ := List.nodup_cons.1 distinct
    obtain ⟨entries', goesOn, stands, -⟩ := exists_mergeEntries_cons first change entries
    rw [goesOn, ih others, stands, lookup_cons_eq_ite]
    by_cases here : key = first
    · have absent : rest.lookup key = none := lookup_eq_none_iff_not_mem.2 (here ▸ single)
      rw [if_pos here, if_pos here, absent, here]
      rfl
    · rw [if_neg here, if_neg here]

-- Null takes an entry away, also within a record; what is not mentioned stays.
example :
    (record [("a", str "b"), ("c", record [("d", str "e"), ("f", str "g")])]).mergePatch
        (record [("a", str "z"), ("c", record [("f", null)])]) =
      record [("a", str "z"), ("c", record [("d", str "e")])] := by
  rfl

/-- A merge leaves distinct keys distinct. -/
theorem nodup_mergeEntries (distinct : (entries.map Prod.fst).Nodup) :
    ((mergeEntries entries changes).map Prod.fst).Nodup := by
  induction changes generalizing entries with
  | nil => exact distinct
  | cons entry rest ih =>
    obtain ⟨entries', goesOn, -, kept⟩ := exists_mergeEntries_cons entry.1 entry.2 entries
    rw [goesOn]
    exact ih (kept distinct)

end Value
end CommitChecks

import CommitChecks.Proofs.CheckMode.Courses
import CommitChecks.Proofs.Document.MergePatch
import CommitChecks.Proofs.Document.RoundTrips
import Mathlib.Data.List.Sort
import Mathlib.Data.Set.List

/-!
# Metadata patches as merge patches

A patch is applied to a run at hand, and sent as a merge patch to whoever stores the run. A stored document
that shows a run's labels and annotations shows those of the patched run once the merge patch is applied to
it, through any number of patches (`Run.ShownBy.mergePatches`).
-/

namespace CommitChecks

/-! ## Labels under their keys -/

namespace Labels

theorem nodup_keys (labels : Labels) : (labels.entries.map Prod.fst).Nodup :=
  List.pairwise_map.2 (labels.ascending.imp String.ne_of_lt)

/-- Labels that give the same text under every key are the same. -/
theorem ext_get? {labels other : Labels} (same : ∀ key, labels.get? key = other.get? key) :
    labels = other := by
  apply eq_of_entries
  have irrefl : Std.Irrefl fun first second : String × String => first.1 < second.1 :=
    ⟨fun entry => String.lt_irrefl entry.1⟩
  have asymm : Std.Asymm fun first second : String × String => first.1 < second.1 :=
    ⟨fun first second => String.lt_asymm⟩
  apply List.Pairwise.eq_of_mem_iff labels.ascending other.ascending
  rintro ⟨key, text⟩
  rw [← lookup_eq_some_iff_mem labels.nodup_keys, ← lookup_eq_some_iff_mem other.nodup_keys]
  exact iff_of_eq (congrArg (· = some text) (same key))

theorem get?_insertAll (labels : Labels) {entries : List (String × String)}
    (distinct : (entries.map Prod.fst).Nodup) (key : String) :
    (labels.insertAll entries).get? key = (entries.lookup key).or (labels.get? key) := by
  induction entries generalizing labels with
  | nil => rfl
  | cons entry rest ih =>
    obtain ⟨first, text⟩ := entry
    obtain ⟨single, others⟩ := List.nodup_cons.1 distinct
    change ((labels.insert first text).insertAll rest).get? key = _
    rw [ih (labels.insert first text) others, get?_insert, lookup_cons_eq_ite]
    by_cases here : key = first
    · have absent : rest.lookup key = none := lookup_eq_none_iff_not_mem.2 (here ▸ single)
      rw [if_pos here, if_pos here, absent, Option.none_or, Option.some_or]
    · rw [if_neg here, if_neg here]

/-- Labels that override others are found first. -/
@[simp] theorem get?_overrideBy (labels newer : Labels) (key : String) :
    (labels.overrideBy newer).get? key = (newer.get? key).or (labels.get? key) :=
  labels.get?_insertAll newer.nodup_keys key

/-- Labels under the keys of newer ones are forgotten. -/
theorem overrideBy_overrideBy (labels : Labels) {older newer : Labels}
    (covered : ∀ key, newer.get? key = none → older.get? key = none) :
    (labels.overrideBy older).overrideBy newer = labels.overrideBy newer := by
  apply ext_get?
  intro key
  simp only [get?_overrideBy]
  cases given : newer.get? key with
  | none => rw [covered key given, Option.none_or]
  | some text => rfl

/-- Whether a document is a record of the labels: with distinct keys, in any order. -/
def ShownBy (labels : Labels) (document : Value) : Prop :=
  ∃ entries, document = .record entries ∧ (entries.map Prod.fst).Nodup ∧
    ∀ key, entries.lookup key = (labels.get? key).map .str

theorem lookup_map_str (pairs : List (String × String)) (key : String) :
    (pairs.map fun (key, text) => (key, Value.str text)).lookup key = (pairs.lookup key).map .str := by
  induction pairs with
  | nil => rfl
  | cons pair rest ih =>
    rw [List.map_cons, lookup_cons_eq_ite, lookup_cons_eq_ite, ih]
    split <;> rfl

theorem keys_map_str (pairs : List (String × String)) :
    (pairs.map fun (key, text) => (key, Value.str text)).map Prod.fst = pairs.map Prod.fst := by
  rw [List.map_map]
  rfl

theorem shownBy_toValue (labels : Labels) : labels.ShownBy labels.toValue := by
  refine ⟨_, rfl, ?_, lookup_map_str labels.entries⟩
  rw [keys_map_str]
  exact labels.nodup_keys

/-- A record of labels is read as these labels. -/
theorem ShownBy.decode {labels : Labels} {document : Value} (shown : labels.ShownBy document)
    (dialect : Dialect) : Labels.decode dialect document = .ok labels := by
  obtain ⟨entries, rfl, distinct, holds⟩ := shown
  have texts : ∀ entry ∈ entries,
      entry ∈ Set.range fun pair : String × String => (pair.1, Value.str pair.2) := by
    rintro ⟨key, value⟩ member
    have found : (labels.get? key).map .str = some value := by
      rw [← holds key, lookup_eq_some_iff_mem distinct]
      exact member
    obtain ⟨text, -, rfl⟩ := Option.map_eq_some_iff.1 found
    exact ⟨(key, text), rfl⟩
  obtain ⟨pairs, rfl⟩ : entries ∈ Set.range (List.map _) := by
    rw [Set.range_list_map]
    exact texts
  rw [keys_map_str] at distinct
  have same : empty.insertAll pairs = labels := by
    apply ext_get?
    intro key
    have found := holds key
    rw [lookup_map_str] at found
    rw [get?_insertAll empty distinct, Option.map_injective (fun _ _ => Value.str.inj) found]
    exact Option.or_none
  change (Decoder.entries Decoder.text dialect _).map empty.insertAll = _
  rw [Decoder.entries_text, Except.map, same]

/-- A merge patch of labels overrides the labels of a record. -/
theorem ShownBy.mergePatch {labels : Labels} {document : Value} (shown : labels.ShownBy document)
    (newer : Labels) : (labels.overrideBy newer).ShownBy (document.mergePatch newer.toValue) := by
  obtain ⟨entries, rfl, distinct, holds⟩ := shown
  refine ⟨_, rfl, Value.nodup_mergeEntries distinct, ?_⟩
  intro key
  have distinct' : ((newer.entries.map fun (key, text) => (key, Value.str text)).map Prod.fst).Nodup := by
    rw [keys_map_str]
    exact newer.nodup_keys
  rw [Value.lookup_mergeEntries distinct', lookup_map_str, get?_overrideBy]
  change Value.merged ((newer.get? key).map .str) (entries.lookup key) = _
  cases newer.get? key with
  | none => exact holds key
  | some text => rfl

end Labels

/-! ## The labels and annotations of a run -/

namespace Run

/-- The labels and annotations of a run as they are stored. -/
def metadata (run : Run) : Value :=
  .record [("metadata", .record [
    ("labels", run.labels.toValue),
    ("annotations", run.annotations.toValue)])]

/-- Whether a stored document holds the labels and annotations of a run and nothing else. -/
def ShownBy (run : Run) (document : Value) : Prop :=
  ∃ labels annotations,
    document = .record [("metadata", .record [("labels", labels), ("annotations", annotations)])] ∧
    run.labels.ShownBy labels ∧ run.annotations.ShownBy annotations

variable {run : Run} {document : Value}

theorem shownBy_metadata (run : Run) : run.ShownBy run.metadata :=
  ⟨_, _, rfl, run.labels.shownBy_toValue, run.annotations.shownBy_toValue⟩

/-- A patch does to a run what its merge patch does to the stored document. -/
theorem ShownBy.mergePatch (shown : run.ShownBy document) (patch : MetadataPatch) :
    (patch.applyTo run).ShownBy (document.mergePatch patch.toValue) := by
  obtain ⟨labels, annotations, rfl, labelled, annotated⟩ := shown
  exact ⟨_, _, rfl, labelled.mergePatch patch.labels, annotated.mergePatch patch.annotations⟩

/-- Patches do to a run what their merge patches do to the stored document, one after the other. -/
theorem ShownBy.mergePatches (shown : run.ShownBy document) (patches : List MetadataPatch) :
    (patches.foldl (fun run patch => patch.applyTo run) run).ShownBy
      (patches.foldl (fun document patch => document.mergePatch patch.toValue) document) := by
  induction patches generalizing run document with
  | nil => exact shown
  | cons patch rest ih => exact ih (shown.mergePatch patch)

end Run

namespace MetadataPatch

/-- The text of a merge patch is read as the merge patch. -/
theorem read?_render (patch : MetadataPatch) :
    Json.read? (Json.render patch.toValue) = some patch.toValue := by
  apply Json.read?_render
  refine .record ?_
  simp only [List.forall_mem_singleton]
  refine .record ?_
  simp only [List.forall_mem_cons]
  exact ⟨patch.labels.plain_toValue, patch.annotations.plain_toValue, by simp⟩

/-- A patch overrides an earlier one that puts its texts under the same keys. -/
theorem applyTo_applyTo {older newer : MetadataPatch} (run : Run)
    (labels : ∀ key, newer.labels.get? key = none → older.labels.get? key = none)
    (annotations : ∀ key, newer.annotations.get? key = none → older.annotations.get? key = none) :
    newer.applyTo (older.applyTo run) = newer.applyTo run := by
  simp only [applyTo, Labels.overrideBy_overrideBy run.labels labels,
    Labels.overrideBy_overrideBy run.annotations annotations]

variable (id : UInt64) (logUrl : String)

theorem get?_labels_forCheck (key : String) :
    (forCheck id logUrl).labels.get? key = if key = Run.checkIdKey then some id.toNat.repr else none :=
  Labels.get?_insert Labels.empty Run.checkIdKey _ key

theorem get?_annotations_forCheck (key : String) :
    (forCheck id logUrl).annotations.get? key = if key = Run.logUrlKey then some logUrl else none :=
  Labels.get?_insert Labels.empty Run.logUrlKey _ key

/-- Storing a check sets a single label. -/
theorem get?_labels_applyTo_forCheck (run : Run) (key : String) :
    ((forCheck id logUrl).applyTo run).labels.get? key =
      if key = Run.checkIdKey then some id.toNat.repr else run.labels.get? key := by
  rw [applyTo, Labels.get?_overrideBy, get?_labels_forCheck]
  split <;> rfl

/-- Storing a check sets a single annotation. -/
theorem get?_annotations_applyTo_forCheck (run : Run) (key : String) :
    ((forCheck id logUrl).applyTo run).annotations.get? key =
      if key = Run.logUrlKey then some logUrl else run.annotations.get? key := by
  rw [applyTo, Labels.get?_overrideBy, get?_annotations_forCheck]
  split <;> rfl

/-- Of two checks stored on a run one after the other, the later one is kept. -/
theorem applyTo_forCheck (earlier : UInt64) (earlierUrl : String) (run : Run) :
    (forCheck id logUrl).applyTo ((forCheck earlier earlierUrl).applyTo run) =
      (forCheck id logUrl).applyTo run := by
  apply applyTo_applyTo
  · intro key absent
    rw [get?_labels_forCheck] at absent ⊢
    split at absent
    · contradiction
    · exact if_neg ‹_›
  · intro key absent
    rw [get?_annotations_forCheck] at absent ⊢
    split at absent
    · contradiction
    · exact if_neg ‹_›

end MetadataPatch

/-- Storing a check on a run and merging the patch that is sent into the run's stored labels and annotations
come to the same: one label and one annotation are set, whether or not they were there, and nothing else
changes. Stored twice, the check is stored once; of two checks the later one is kept; and the run's
label is read as the identifier that was stored. -/
theorem patches_agree_with_merge_patches (run : Run) (id : UInt64) (logUrl : String) :
    let patch := MetadataPatch.forCheck id logUrl
    let patched := patch.applyTo run
    (∃ change, Json.read? (Json.render patch.toValue) = some change ∧
      ∃ labels annotations,
        run.metadata.mergePatch change =
          .record [("metadata", .record [("labels", labels), ("annotations", annotations)])] ∧
        patched.labels.ShownBy labels ∧ Labels.decode .json labels = .ok patched.labels ∧
        patched.annotations.ShownBy annotations ∧
        Labels.decode .json annotations = .ok patched.annotations) ∧
    (patched.name = run.name ∧ patched.namespaceName = run.namespaceName ∧
      patched.cancelState = run.cancelState) ∧
    (∀ key, patched.labels.get? key =
      if key = Run.checkIdKey then some id.toNat.repr else run.labels.get? key) ∧
    (∀ key, patched.annotations.get? key =
      if key = Run.logUrlKey then some logUrl else run.annotations.get? key) ∧
    (patch.applyTo patched = patched ∧
      patched.ShownBy ((run.metadata.mergePatch patch.toValue).mergePatch patch.toValue)) ∧
    (∀ earlier earlierUrl, let first := MetadataPatch.forCheck earlier earlierUrl
      patch.applyTo (first.applyTo run) = patched ∧
        patched.ShownBy ((run.metadata.mergePatch first.toValue).mergePatch patch.toValue)) ∧
    ∀ request : StatusRequest,
      CheckMode.storedId { request with run := some patched } = .ok (some id) := by
  intro patch patched
  have twice : ∀ earlier earlierUrl, let first := MetadataPatch.forCheck earlier earlierUrl
      patch.applyTo (first.applyTo run) = patched ∧
        patched.ShownBy ((run.metadata.mergePatch first.toValue).mergePatch patch.toValue) := by
    intro earlier earlierUrl first
    have last : patch.applyTo (first.applyTo run) = patched :=
      MetadataPatch.applyTo_forCheck id logUrl earlier earlierUrl run
    refine ⟨last, ?_⟩
    rw [← last]
    exact run.shownBy_metadata.mergePatches [first, patch]
  refine ⟨?merge, ⟨rfl, rfl, rfl⟩, ?labels, ?annotations, twice id logUrl, twice, ?read⟩
  case merge =>
    obtain ⟨labels, annotations, merged, labelled, annotated⟩ := run.shownBy_metadata.mergePatch patch
    exact ⟨_, patch.read?_render, labels, annotations, merged, labelled, labelled.decode .json,
      annotated, annotated.decode .json⟩
  case labels => exact MetadataPatch.get?_labels_applyTo_forCheck id logUrl run
  case annotations => exact MetadataPatch.get?_annotations_applyTo_forCheck id logUrl run
  case read =>
    intro request
    rw [CheckMode.storedId_eq_some_iff]
    exact MetadataPatch.checkId?_applyTo_forCheck id logUrl run

end CommitChecks

import CommitChecks.Proofs.Document.DistinctKeys
import CommitChecks.Proofs.Document.EntryOrder

/-!
# Fields with defaults

What the readers of single values accept, said by the values, and what a record with distinct keys comes to
if all of its fields have defaults: it is read exactly if every entry is accepted on its own, and each field
is what stands under its name, or its default.
-/

namespace CommitChecks

/-! ## Accepted values -/

namespace Decoder

variable {dialect : Dialect} {value : Value}

theorem map_eq_ok_iff {α β : Type} {fill : α → β} {read : Except DecodeError α} {data : β} :
    read.map fill = .ok data ↔ ∃ found, read = .ok found ∧ fill found = data := by
  cases read <;> simp [Except.map]

theorem text_eq_ok_iff {words : String} : text dialect value = .ok words ↔ value = .str words := by
  cases value <;> simp [text]

theorem boolean_eq_ok_iff {flag : Bool} : boolean dialect value = .ok flag ↔ value = .bool flag := by
  cases value <;> simp [boolean]

theorem eq_int_of_integer {low high : Int} {expected : String} {n : Int}
    (reads : integer low high expected dialect value = .ok n) : value = .int n ∧ low ≤ n ∧ n < high := by
  cases value with
  | int m =>
    rw [integer] at reads
    split at reads
    · split at reads
      · obtain rfl := Except.ok.inj reads
        exact ⟨rfl, ‹_›⟩
      · contradiction
    · contradiction
  | _ => contradiction

/-- Words are read from the integers of their range and from nothing else. -/
theorem word_eq_ok_iff {expected : String} {n : UInt64} :
    word expected dialect value = .ok n ↔ value = .int n.toNat := by
  constructor
  · intro reads
    obtain ⟨m, accepted, rfl⟩ := map_eq_ok_iff.1 reads
    obtain ⟨rfl, nonneg, bound⟩ := eq_int_of_integer accepted
    have below : m.toNat < UInt64.size := (Int.toNat_lt nonneg).2 bound
    rw [UInt64.toNat_ofNat_of_lt' below, Int.toNat_of_nonneg nonneg]
  · rintro rfl
    exact word_int expected dialect n

theorem optional_eq_ok_iff {α : Type} {decode : Decoder α} {data : Option α} :
    optional decode dialect value = .ok data ↔
      (value = .null ∧ data = none) ∨
        value ≠ .null ∧ ∃ found, decode dialect value = .ok found ∧ some found = data := by
  cases value with
  | null => simp [optional, eq_comm]
  | _ =>
    simp only [reduceCtorEq, ne_eq, not_false_eq_true, false_and, true_and, false_or]
    exact map_eq_ok_iff

theorem optional_uint64_eq_ok_iff {id : Option UInt64} :
    optional uint64 dialect value = .ok id ↔ value = .ofId? id := by
  rw [optional_eq_ok_iff, uint64]
  simp only [word_eq_ok_iff]
  cases id <;> grind [Value.ofId?]

theorem optional_text_eq_ok_iff {words : Option String} :
    optional text dialect value = .ok words ↔ value = .ofText? words := by
  rw [optional_eq_ok_iff]
  simp only [text_eq_ok_iff]
  cases words <;> grind [Value.ofText?]

/-- Whether a value names one of several values: as a text, or as a record of one entry that carries
nothing. -/
inductive Names (dialect : Dialect) (name : String) : Value → Prop
  | text : Names dialect name (.str name)
  | record {payload : Value} (empty : isEmptyPayload dialect payload = true) :
      Names dialect name (.record [(name, payload)])

theorem variantNamed_eq_ok_iff {α : Type} {variants : List (String × α)} {name : String} {data : α} :
    variantNamed variants name = .ok data ↔ variants.lookup name = some data := by
  unfold variantNamed
  cases variants.lookup name <;> simp

theorem variant_eq_ok_iff {α : Type} {variants : List (String × α)} {data : α} :
    variant variants dialect value = .ok data ↔
      ∃ name, variants.lookup name = some data ∧ Names dialect name value := by
  constructor
  · intro reads
    unfold variant at reads
    split at reads
    · rename_i name
      exact ⟨name, variantNamed_eq_ok_iff.1 reads, .text⟩
    · rename_i name payload
      obtain ⟨found, named, ends⟩ := of_bind reads
      split at ends
      · rename_i empty
        obtain rfl := Except.ok.inj ends
        exact ⟨name, variantNamed_eq_ok_iff.1 named, .record empty⟩
      · split at ends <;> contradiction
    all_goals contradiction
  · rintro ⟨name, known, names⟩
    cases names with
    | text => exact variantNamed_eq_ok_iff.2 known
    | @record payload empty =>
      change (variantNamed variants name).bind _ = _
      rw [variantNamed_eq_ok_iff.2 known]
      exact if_pos empty

/-- Where all names are found, a value is read as what it names. -/
theorem variant_names_eq_ok_iff {α : Type} {name : α → String} {all : List α} {data : α}
    (found : (all.map fun data => (name data, data)).lookup (name data) = some data) :
    variant (all.map fun data => (name data, data)) dialect value = .ok data ↔
      Names dialect (name data) value := by
  rw [variant_eq_ok_iff]
  constructor
  · rintro ⟨other, known, names⟩
    obtain ⟨named, -, rfl, rfl⟩ : ∃ named ∈ all, name named = other ∧ named = data := by
      simpa using mem_of_lookup known
    exact names
  · exact fun names => ⟨name data, found, names⟩

end Decoder

/-! ## What is given, or the default -/

/-- Whether data is what a given value stands for, or the default if none is given. -/
def Given {α : Type} (standsFor : Value → α → Prop) (default : α) (given : Option Value) (data : α) :
    Prop :=
  match given with
  | none => data = default
  | some value => standsFor value data

@[simp] theorem Field.name_of {Draft α : Type} (name : String) (mayBeCutOff : Bool) (decode : Decoder α)
    (put : α → Draft → Draft) : (Field.of name mayBeCutOff decode put).name = name :=
  rfl

namespace RecordShape

variable {α β : Type} {shape : RecordShape α α} {dialect : Dialect} {entries : List (String × Value)}
  {data : α}

/-- A record that is complete from the start is read exactly if all its entries are accepted. -/
theorem exists_decode_eq_ok_iff (complete : shape.finish = .ok) (distinct : (entries.map Prod.fst).Nodup) :
    (∃ data, shape.decode dialect (.record entries) = .ok data) ↔
      ∀ entry ∈ entries, shape.Accepts dialect entry := by
  constructor
  · rintro ⟨data, decodes⟩
    obtain ⟨final, read, -⟩ := Decoder.of_bind decodes
    exact ((readEntries_eq_ok_iff distinct (by simp)).1 read).1
  · intro accepted
    have read : shape.readEntries dialect [] shape.start entries =
        .ok (entries.foldl (shape.put dialect) shape.start) :=
      (readEntries_eq_ok_iff distinct (by simp)).2 ⟨accepted, rfl⟩
    refine ⟨entries.foldl (shape.put dialect) shape.start, ?_⟩
    change (shape.readEntries dialect [] shape.start entries).bind shape.finish = _
    rw [read, complete]
    rfl

/-- A strict record accepts no entry but those that one of its fields reads. -/
theorem exists_field_of_accepts {key : String} {value : Value} (strict : shape.strict = true)
    (accepted : shape.Accepts dialect (key, value)) :
    ∃ field put, field ∈ shape.fields ∧ field.name = key ∧ field.read dialect value = .ok put := by
  unfold Accepts at accepted
  cases known : shape.field? key with
  | none => simp [known, strict] at accepted
  | some field =>
    obtain ⟨declared, named⟩ := name_of_field? known
    simp only [known] at accepted
    obtain ⟨put, reads⟩ := accepted
    exact ⟨field, put, declared, named, reads⟩

/-- Whether two entries have the same key and are read alike. -/
def Alike (shape : RecordShape α α) (dialect : Dialect) (entry other : String × Value) : Prop :=
  entry.1 = other.1 ∧ ∀ field, shape.field? entry.1 = some field → ∀ fill,
    field.read dialect entry.2 = .ok fill ↔ field.read dialect other.2 = .ok fill

/-- Entries that are read alike one by one are read alike as a record. -/
theorem readEntries_congr {others : List (String × Value)} {seen : List String} {draft final : α}
    (alike : List.Forall₂ (shape.Alike dialect) entries others) :
    shape.readEntries dialect seen draft entries = .ok final ↔
      shape.readEntries dialect seen draft others = .ok final := by
  induction alike generalizing seen draft with
  | nil => rfl
  | @cons entry other rest rest' here _ ih =>
    obtain ⟨key, value⟩ := entry
    obtain ⟨key', value'⟩ := other
    obtain ⟨rfl, here⟩ : key = key' ∧ _ := here
    simp only [readEntries]
    cases known : shape.field? key with
    | none =>
      simp only
      split
      · rfl
      · exact ih
    | some field =>
      have same : ∀ fill, field.read dialect value = .ok fill ↔ field.read dialect value' = .ok fill :=
        here field known
      simp only
      split
      · rfl
      · cases reads : field.read dialect value with
        | ok fill =>
          rw [(same fill).1 reads]
          exact ih
        | error complaint =>
          cases reads' : field.read dialect value' with
          | ok fill =>
            rw [(same fill).2 reads'] at reads
            contradiction
          | error complaint' => simp [bind, Except.bind]

theorem decode_congr {others : List (String × Value)}
    (alike : List.Forall₂ (shape.Alike dialect) entries others) :
    shape.decode dialect (.record entries) = .ok data ↔ shape.decode dialect (.record others) = .ok data := by
  have bound (fields : List (String × Value)) : shape.decode dialect (.record fields) = .ok data ↔
      ∃ final, shape.readEntries dialect [] shape.start fields = .ok final ∧
        shape.finish final = .ok data := by
    refine ⟨fun decodes => Decoder.of_bind decodes, fun ⟨final, read, finished⟩ => ?_⟩
    change (shape.readEntries dialect [] shape.start fields).bind shape.finish = _
    rw [read]
    exact finished
  simp only [bound, readEntries_congr alike]

/-- Where fields commute, a record with distinct keys is read alike in any order of its entries, or in none. -/
theorem Commutes.decode_perm_iff (commutes : shape.Commutes) {others : List (String × Value)}
    (distinct : (entries.map Prod.fst).Nodup) (perm : others.Perm entries) :
    shape.decode dialect (.record entries) = .ok data ↔ shape.decode dialect (.record others) = .ok data :=
  ⟨commutes.decode_perm distinct perm,
    commutes.decode_perm ((perm.map Prod.fst).nodup_iff.2 distinct) perm.symm⟩

/-- A part of a record that is complete from the start is what stands under the name of its field, or what
it was at the start. -/
theorem given_of_decode {get : α → β} {name : String} {mayBeCutOff : Bool} {decode : Decoder β}
    {put : β → α → α} {standsFor : Value → β → Prop} (complete : shape.finish = .ok)
    (filled : shape.FilledBy name get)
    (known : shape.field? name = some (.of name mayBeCutOff decode put))
    (puts : ∀ part before, get (put part before) = part)
    (reads : ∀ value part, decode dialect value = .ok part → standsFor value part)
    (distinct : (entries.map Prod.fst).Nodup)
    (decodes : shape.decode dialect (.record entries) = .ok data) :
    Given standsFor (get shape.start) (entries.lookup name) (get data) := by
  obtain ⟨final, read, finished⟩ := Decoder.of_bind decodes
  rw [complete] at finished
  obtain rfl := Except.ok.inj finished
  obtain ⟨kept, changed⟩ := get_readEntries filled known distinct read
  cases found : entries.lookup name with
  | none => exact kept found
  | some value =>
    obtain ⟨put', before, accepted, same⟩ := changed value found
    obtain ⟨part, decodes, rfl⟩ := Field.read_of.1 accepted
    rw [same, puts]
    exact reads value part decodes

end RecordShape
end CommitChecks

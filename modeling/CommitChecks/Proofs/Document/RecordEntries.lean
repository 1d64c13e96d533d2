import CommitChecks.Document.Decoder
import CommitChecks.Document.Entries
import Mathlib.Data.List.Nodup

/-!
# Reading the entries of a record

A record with distinct keys is read by what stands under its keys: the order of its entries does not
matter, and neither do entries that are not known. `exists_readEntries_eq_ok` says when the entries
can be read, `get_readEntries` what a part of the draft holds that a single field fills, and
`decode_record` what the whole record comes to.
-/

namespace CommitChecks

theorem Found.isWord_toNat (n : UInt64) : Found.isWord n.toNat = true := by
  have below : (n.toNat : Int) < Int.pow 2 64 := Int.ofNat_lt.2 n.toNat_lt
  have above : -Int.pow 2 63 ≤ (n.toNat : Int) := Int.le_trans (by decide) (Int.natCast_nonneg _)
  rw [Found.isWord, Bool.and_eq_true, decide_eq_true_eq, decide_eq_true_eq]
  exact ⟨above, below⟩

theorem Found.isWord_toInt (n : Int64) : Found.isWord n.toInt = true := by
  rw [Found.isWord, Bool.and_eq_true, decide_eq_true_eq, decide_eq_true_eq]
  exact ⟨n.le_toInt, Int.lt_trans n.toInt_lt (by decide)⟩

namespace Decoder

/-- What goes on after a reading ends well only if the reading did. -/
theorem of_bind {α β : Type} {read : Except DecodeError α} {next : α → Except DecodeError β} {data : β}
    (ends : read.bind next = .ok data) : ∃ value, read = .ok value ∧ next value = .ok data := by
  cases read with
  | error complaint => contradiction
  | ok value => exact ⟨value, rfl, ends⟩

/-- The words that the library writes are read back. -/
@[simp] theorem word_int (expected : String) (dialect : Dialect) (n : UInt64) :
    word expected dialect (.int n.toNat) = .ok n := by
  have inRange : (0 : Int) ≤ n.toNat ∧ (n.toNat : Int) < Int.pow 2 64 :=
    ⟨Int.natCast_nonneg _, Int.ofNat_lt.2 n.toNat_lt⟩
  rw [word, integer, if_pos (Found.isWord_toNat n), if_pos inRange]
  simp [Except.map]

/-- The identifiers that the library writes are read back. -/
@[simp] theorem uint64_int (dialect : Dialect) (n : UInt64) :
    uint64 dialect (.int n.toNat) = .ok n :=
  word_int "u64" dialect n

end Decoder

theorem Field.read_of {Draft α : Type} {name : String} {mayBeCutOff : Bool} {decode : Decoder α}
    {put : α → Draft → Draft} {dialect : Dialect} {value : Value} {put' : Draft → Draft} :
    (Field.of name mayBeCutOff decode put).read dialect value = .ok put' ↔
      ∃ data, decode dialect value = .ok data ∧ put' = put data := by
  change (decode dialect value).map put = .ok put' ↔ _
  cases decode dialect value with
  | error complaint => simp [Except.map]
  | ok data => simp [Except.map, eq_comm]

theorem Field.exists_read_of {Draft α : Type} {name : String} {mayBeCutOff : Bool} {decode : Decoder α}
    {put : α → Draft → Draft} {dialect : Dialect} {value : Value} {data : α}
    (decodes : decode dialect value = .ok data) :
    ∃ put', (Field.of name mayBeCutOff decode put).read dialect value = .ok put' :=
  ⟨put data, Field.read_of.2 ⟨data, decodes, rfl⟩⟩

/-- Whether a field leaves a part of the draft alone, whatever it reads. -/
def Field.Keeps {Draft β : Type} (get : Draft → β) (field : Field Draft) : Prop :=
  ∀ dialect value put, field.read dialect value = .ok put → ∀ draft, get (put draft) = get draft

theorem Field.keeps_of {Draft α β : Type} {get : Draft → β} {name : String} {mayBeCutOff : Bool}
    {decode : Decoder α} {put : α → Draft → Draft}
    (kept : ∀ data draft, get (put data draft) = get draft) :
    (Field.of name mayBeCutOff decode put).Keeps get := by
  intro dialect value put' reads draft
  obtain ⟨data, -, rfl⟩ := Field.read_of.1 reads
  exact kept data draft

namespace RecordShape

variable {Draft α β : Type} {shape : RecordShape Draft α} {dialect : Dialect} {seen : List String}
  {draft final : Draft} {entries : List (String × Value)}

theorem name_of_field? {key : String} {field : Field Draft} (known : shape.field? key = some field) :
    field ∈ shape.fields ∧ field.name = key :=
  ⟨List.mem_of_find?_eq_some known, by simpa using List.find?_some known⟩

/-- Whether a part of the draft is filled by no other field than that of a name. -/
def FilledBy (shape : RecordShape Draft α) (name : String) (get : Draft → β) : Prop :=
  ∀ other ∈ shape.fields, other.name ≠ name → other.Keeps get

/-- An entry with a key of its own is found under its key, and does not hide another one. -/
private theorem lookup_cons_of_distinct {key other : String} {value : Value}
    (distinct : (((other, value) :: entries).map Prod.fst).Nodup)
    (present : (entries.lookup key).isSome = true) :
    ((other, value) :: entries).lookup key = entries.lookup key := by
  have differ : key ≠ other := by
    rintro rfl
    obtain ⟨found, holds⟩ := Option.isSome_iff_exists.1 present
    obtain ⟨before, after, rfl, -⟩ := List.lookup_eq_some_iff.1 holds
    simp at distinct
  rw [lookup_cons_eq_ite, if_neg differ]

/-- The entries of a record with distinct keys can be read if every known one of them can. -/
theorem exists_readEntries_eq_ok (lenient : shape.strict = false)
    (distinct : (entries.map Prod.fst).Nodup) (fresh : ∀ key ∈ seen, key ∉ entries.map Prod.fst)
    (readable : ∀ field ∈ shape.fields, ∀ value, entries.lookup field.name = some value →
      ∃ put, field.read dialect value = .ok put) :
    ∃ final, shape.readEntries dialect seen draft entries = .ok final := by
  induction entries generalizing seen draft with
  | nil => exact ⟨draft, rfl⟩
  | cons entry rest ih =>
    obtain ⟨key, value⟩ := entry
    obtain ⟨single, others⟩ := List.nodup_cons.1 distinct
    have later : ∀ field ∈ shape.fields, ∀ value, rest.lookup field.name = some value →
        ∃ put, field.read dialect value = .ok put := fun field member found holds =>
      readable field member found (by
        rw [lookup_cons_of_distinct distinct (by simp [holds]), holds])
    have unseen : ∀ key ∈ seen, key ∉ rest.map Prod.fst := fun key member present =>
      fresh key member (List.mem_cons_of_mem _ present)
    unfold readEntries
    cases known : shape.field? key with
    | none =>
      simp only [lenient, Bool.false_eq_true, if_false]
      exact ih others unseen later
    | some field =>
      have once : key ∉ seen := fun member => fresh key member List.mem_cons_self
      obtain ⟨member, named⟩ := name_of_field? known
      obtain ⟨put, read⟩ := readable field member value (by simp [named])
      have unseen : ∀ other ∈ key :: seen, other ∉ rest.map Prod.fst :=
        List.forall_mem_cons.2 ⟨single, unseen⟩
      obtain ⟨final, done⟩ : ∃ final, shape.readEntries dialect (key :: seen) (put draft) rest =
        .ok final := ih others unseen later
      refine ⟨final, ?_⟩
      simp only [once, if_false, read]
      exact done

/-- A lenient record with distinct keys is read if every known entry can be, and is then made of the
draft. -/
theorem decode_record (lenient : shape.strict = false) (distinct : (entries.map Prod.fst).Nodup)
    (readable : ∀ field ∈ shape.fields, ∀ value, entries.lookup field.name = some value →
      ∃ put, field.read dialect value = .ok put) :
    ∃ final, shape.readEntries dialect [] shape.start entries = .ok final ∧
      shape.decode dialect (.record entries) = shape.finish final := by
  obtain ⟨final, read⟩ : ∃ final, shape.readEntries dialect [] shape.start entries = .ok final :=
    exists_readEntries_eq_ok lenient distinct (by simp) readable
  refine ⟨final, read, ?_⟩
  change (shape.readEntries dialect [] shape.start entries).bind shape.finish = _
  rw [read]
  rfl

/-- Reading goes past an entry that is not known, and puts one that is known into the draft. -/
theorem of_readEntries_cons {key : String} {value : Value}
    (read : shape.readEntries dialect seen draft ((key, value) :: entries) = .ok final) :
    (shape.field? key = none ∧ shape.readEntries dialect seen draft entries = .ok final) ∨
      ∃ field put, shape.field? key = some field ∧ field.read dialect value = .ok put ∧
        shape.readEntries dialect (key :: seen) (put draft) entries = .ok final := by
  unfold readEntries at read
  cases known : shape.field? key with
  | none =>
    simp only [known] at read
    split at read
    · contradiction
    · exact .inl ⟨rfl, read⟩
  | some field =>
    simp only [known] at read
    split at read
    · contradiction
    · cases reads : field.read dialect value with
      | error complaint =>
        rw [reads] at read
        contradiction
      | ok put =>
        rw [reads] at read
        exact .inr ⟨field, put, rfl, reads, read⟩

/-! ## What all fields keep -/

section
variable {holds : Draft → Prop}
  (kept : ∀ field ∈ shape.fields, ∀ value put, field.read dialect value = .ok put →
    ∀ draft, holds draft → holds (put draft))

include kept

theorem holds_of_readEntries (start : holds draft)
    (read : shape.readEntries dialect seen draft entries = .ok final) : holds final := by
  induction entries generalizing seen draft with
  | nil =>
    obtain rfl := Except.ok.inj read
    exact start
  | cons entry rest ih =>
    obtain ⟨key, value⟩ := entry
    obtain ⟨-, read⟩ | ⟨field, put, known, reads, read⟩ := of_readEntries_cons read
    · exact ih start read
    · exact ih (kept field (name_of_field? known).1 value put reads draft start) read

theorem holds_of_readItems {fields : List (Field Draft)} {values : List Value} {index : Nat}
    (declared : ∀ field ∈ fields, field ∈ shape.fields) (start : holds draft)
    (read : shape.readItems dialect index draft fields values = .ok final) : holds final := by
  induction fields generalizing index draft values with
  | nil =>
    rw [readItems] at read
    obtain rfl := Except.ok.inj read
    exact start
  | cons field fields ih =>
    obtain ⟨here, later⟩ := List.forall_mem_cons.1 declared
    cases values with
    | nil =>
      rw [readItems] at read
      split at read
      · exact ih later start read
      · contradiction
    | cons value values =>
      rw [readItems] at read
      obtain ⟨put, reads, read⟩ := Decoder.of_bind read
      exact ih later (kept field here value put reads draft start) read

/-- What all fields keep of a draft holds of the draft that a record is made of, whether it is written
with the names of its fields or as a list. -/
theorem exists_draft_of_decode {value : Value} {data : α} (start : holds shape.start)
    (decodes : shape.decode dialect value = .ok data) :
    ∃ draft, holds draft ∧ shape.finish draft = .ok data := by
  unfold decode at decodes
  split at decodes
  · obtain ⟨final, read, finished⟩ := Decoder.of_bind decodes
    exact ⟨final, holds_of_readEntries kept start read, finished⟩
  · obtain ⟨final, read, ends⟩ := Decoder.of_bind decodes
    have holding := holds_of_readItems kept (fun field member => member) start read
    split at ends
    · contradiction
    · exact ⟨final, holding, ends⟩
  · contradiction

end

/-- A part of the draft that only one field fills holds what stands under the name of the field, or is
as it was if nothing stands there. -/
theorem get_readEntries {get : Draft → β} {name : String} {field : Field Draft}
    (filled : shape.FilledBy name get) (known : shape.field? name = some field)
    (distinct : (entries.map Prod.fst).Nodup)
    (read : shape.readEntries dialect seen draft entries = .ok final) :
    (entries.lookup name = none → get final = get draft) ∧
      ∀ value, entries.lookup name = some value →
        ∃ put before, field.read dialect value = .ok put ∧ get final = get (put before) := by
  induction entries generalizing seen draft with
  | nil =>
    obtain rfl := Except.ok.inj read
    exact ⟨fun _ => rfl, fun value found => nomatch found⟩
  | cons entry rest ih =>
    obtain ⟨key, value⟩ := entry
    obtain ⟨single, others⟩ := List.nodup_cons.1 distinct
    rw [lookup_cons_eq_ite]
    obtain ⟨unknown, read⟩ | ⟨other, put, found, reads, read⟩ := of_readEntries_cons read
    · have differ : name ≠ key := fun same => by
        rw [same, unknown] at known
        contradiction
      rw [if_neg differ]
      exact ih others read
    · obtain ⟨unchanged, changed⟩ := ih others read
      by_cases here : name = key
      · subst here
        obtain rfl := Option.some.inj (known.symm.trans found)
        have absent : rest.lookup name = none := by
          refine Option.eq_none_iff_forall_ne_some.2 fun value holds => single ?_
          obtain ⟨before, after, rfl, -⟩ := List.lookup_eq_some_iff.1 holds
          simp
        rw [if_pos rfl]
        refine ⟨nofun, fun given same => ?_⟩
        obtain rfl := Option.some.inj same
        exact ⟨put, draft, reads, unchanged absent⟩
      · obtain ⟨member, named⟩ := name_of_field? found
        have differ : other.name ≠ name := by rw [named]; exact Ne.symm here
        have kept := filled other member differ dialect value put reads draft
        rw [if_neg here]
        exact ⟨fun absent => (unchanged absent).trans kept, changed⟩

/-- What a field reads is put into the draft, whatever else the record holds. -/
theorem get_readEntries_of_lookup {γ : Type} {get : Draft → β} {name : String} {mayBeCutOff : Bool}
    {decode : Decoder γ} {put : γ → Draft → Draft} (filled : shape.FilledBy name get)
    (known : shape.field? name = some (.of name mayBeCutOff decode put))
    (distinct : (entries.map Prod.fst).Nodup)
    (read : shape.readEntries dialect seen draft entries = .ok final) {value : Value} {data : γ}
    (found : entries.lookup name = some value) (decodes : decode dialect value = .ok data) :
    ∃ before, get final = get (put data before) := by
  obtain ⟨put', before, reads, same⟩ :=
    (get_readEntries filled known distinct read).2 value found
  obtain ⟨data', decodes', rfl⟩ := Field.read_of.1 reads
  obtain rfl := Except.ok.inj (decodes.symm.trans decodes')
  exact ⟨before, same⟩

end RecordShape

/-- Whether an optional text stands under a key. One that is absent may be left out or null. -/
def HoldsText (entries : List (String × Value)) (key : String) (text : Option String) : Prop :=
  entries.lookup key = text.map Value.str ∨ text = none ∧ entries.lookup key = some .null

namespace HoldsText

variable {entries : List (String × Value)} {key : String} {text : Option String}

/-- Whatever stands there can be read as an optional text. -/
theorem decodes (holds : HoldsText entries key text) (dialect : Dialect) {value : Value}
    (found : entries.lookup key = some value) :
    Decoder.optional Decoder.text dialect value = .ok text := by
  obtain present | ⟨rfl, null⟩ := holds
  · rw [found] at present
    obtain ⟨words, rfl, rfl⟩ := Option.map_eq_some_iff.1 present.symm
    rfl
  · obtain rfl := Option.some.inj (found.symm.trans null)
    rfl

/-- A field for an optional text ends up with the text that stands under its name. -/
theorem get_readEntries {Draft α : Type} {shape : RecordShape Draft α} {dialect : Dialect}
    {seen : List String} {draft final : Draft} (holds : HoldsText entries key text)
    {get : Draft → Option String} {mayBeCutOff : Bool} {put : Option String → Draft → Draft}
    (filled : shape.FilledBy key get)
    (known : shape.field? key = some (.of key mayBeCutOff (Decoder.optional Decoder.text) put))
    (puts : ∀ data before, get (put data before) = data)
    (distinct : (entries.map Prod.fst).Nodup) (absent : get draft = none)
    (read : shape.readEntries dialect seen draft entries = .ok final) : get final = text := by
  cases found : entries.lookup key with
  | none =>
    obtain missing | ⟨-, null⟩ := holds
    · rw [found] at missing
      rw [(RecordShape.get_readEntries filled known distinct read).1 found, absent,
        Option.map_eq_none_iff.1 missing.symm]
    · rw [found] at null
      contradiction
  | some value =>
    obtain ⟨before, same⟩ := RecordShape.get_readEntries_of_lookup filled known distinct read
      found (holds.decodes dialect found)
    rw [same, puts]

end HoldsText
end CommitChecks

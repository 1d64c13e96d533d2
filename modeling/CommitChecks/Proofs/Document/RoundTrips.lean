import CommitChecks.Event
import CommitChecks.Log.Config
import CommitChecks.Options
import CommitChecks.Proofs.Document.EntryOrder
import CommitChecks.Proofs.Json.RoundTrip
import CommitChecks.Run

/-!
# Written documents are read back

Runs, options, log configurations and events are written as records and come back from them, in whatever
order their fields stand, and so do the records from their JSON texts. An event comes back exactly if its
kind is the one that its name stands for, as every kind is that was made from a name or read.
-/

namespace CommitChecks

/-- Whether data is written as a record and comes back from it, in whatever order the fields stand, and
every such record from its text. -/
def RoundTrips {α : Type} (decode : Decoder α) (toValue : α → Value) (data : α) : Prop :=
  ∃ fields, toValue data = .record fields ∧ ∀ entries : List (String × Value), entries.Perm fields →
    decode .json (.record entries) = .ok data ∧
      Json.read? (Json.render (.record entries)) = some (.record entries)

/-- Data round trips if the record that is written for it has distinct keys, is plain and is read back. -/
theorem RecordShape.roundTrips {Draft α : Type} {shape : RecordShape Draft α} (commutes : shape.Commutes)
    {toValue : α → Value} {data : α} {fields : List (String × Value)}
    (written : toValue data = .record fields) (distinct : (fields.map Prod.fst).Nodup)
    (plain : ∀ entry ∈ fields, Json.Plain (Json.depthLimit - 1) entry.2)
    (decodes : shape.decode .json (.record fields) = .ok data) :
    RoundTrips shape.decode toValue data := by
  refine ⟨fields, written, ?_⟩
  intro entries perm
  constructor
  · exact commutes.decode_perm distinct perm decodes
  · apply Json.read?_render
    apply Json.Plain.record
    intro entry member
    exact plain entry (perm.mem_iff.1 member)

theorem RecordShape.of_required_bind {α β : Type} {name : String} {field : Option β}
    {next : β → Except DecodeError α} {data : α} (ends : (required name field).bind next = .ok data) :
    ∃ value, field = some value ∧ next value = .ok data := by
  cases field with
  | none => contradiction
  | some value => exact ⟨value, rfl, ends⟩

/-! ## Decoders -/

namespace Decoder

@[simp] theorem map_ok {α β : Type} (fill : α → β) (data : α) :
    (Except.ok data : Except DecodeError α).map fill = .ok (fill data) :=
  rfl

@[simp] theorem text_str (dialect : Dialect) (value : String) : text dialect (.str value) = .ok value :=
  rfl

@[simp] theorem boolean_bool (dialect : Dialect) (value : Bool) :
    boolean dialect (.bool value) = .ok value :=
  rfl

@[simp] theorem int64_toInt (dialect : Dialect) (n : Int64) : int64 dialect (.int n.toInt) = .ok n := by
  have inRange : -Int.pow 2 63 ≤ n.toInt ∧ n.toInt < Int.pow 2 63 := ⟨n.le_toInt, n.toInt_lt⟩
  rw [int64, integer, if_pos (Found.isWord_toInt n), if_pos inRange]
  simp [Except.map]

@[simp] theorem optional_ofId? (dialect : Dialect) (id : Option UInt64) :
    optional uint64 dialect (.ofId? id) = .ok id := by
  cases id with
  | none => rfl
  | some id =>
    change (uint64 dialect (.int id.toNat)).map some = .ok (some id)
    rw [uint64_int]
    rfl

@[simp] theorem optional_ofText? (dialect : Dialect) (words : Option String) :
    optional text dialect (.ofText? words) = .ok words := by
  cases words <;> rfl

theorem entries_text (dialect : Dialect) (pairs : List (String × String)) :
    entries text dialect (pairs.map fun (key, words) => (key, .str words)) = .ok pairs := by
  induction pairs with
  | nil => rfl
  | cons pair rest ih =>
    rw [List.map_cons, entries, ih]
    rfl

/-- What stands for a name is one of the values that have names. -/
theorem mem_of_variantNamed {α : Type} {variants : List (String × α)} {name : String} {value : α}
    (found : variantNamed variants name = .ok value) : (name, value) ∈ variants := by
  unfold variantNamed at found
  split at found
  · rename_i known
    obtain rfl := Except.ok.inj found
    obtain ⟨before, after, rfl, -⟩ := List.lookup_eq_some_iff.1 known
    simp
  · contradiction

theorem mem_of_variant {α : Type} {variants : List (String × α)} {dialect : Dialect} {document : Value}
    {value : α} (decodes : variant variants dialect document = .ok value) :
    ∃ name, (name, value) ∈ variants := by
  unfold variant at decodes
  split at decodes
  · exact ⟨_, mem_of_variantNamed decodes⟩
  · rename_i name payload
    obtain ⟨known, found, ends⟩ := of_bind decodes
    split at ends
    · obtain rfl := Except.ok.inj ends
      exact ⟨name, mem_of_variantNamed found⟩
    · split at ends <;> contradiction
  all_goals contradiction

end Decoder

/-! ## Names -/

theorem EventKind.decode_toValue (dialect : Dialect) (kind : EventKind) :
    decode dialect kind.toValue = .ok (ofName kind.name) :=
  rfl

/-- A kind that was read is the one that its name stands for. -/
theorem EventKind.ofName_name_of_decode {dialect : Dialect} {document : Value} {kind : EventKind}
    (decodes : decode dialect document = .ok kind) : ofName kind.name = kind := by
  unfold decode at decodes
  split at decodes
  · obtain rfl := Except.ok.inj decodes
    rw [name_ofName]
  · split at decodes
    · rename_i known read
      obtain rfl := Except.ok.inj decodes
      obtain ⟨name, member⟩ := Decoder.mem_of_variant read
      have canonical : ∀ variant ∈ named, ofName variant.2.name = variant.2 := by decide
      exact canonical (name, known) member
    · contradiction

@[simp] theorem CancelState.optional_decode (dialect : Dialect) (state : Option CancelState) :
    Decoder.optional decode dialect (.ofText? (state.map name)) = .ok state := by
  rcases state with - | _ | _ | _ <;> rfl

@[simp] theorem Log.Format.decode_name (dialect : Dialect) (format : Log.Format) :
    Log.Format.decode dialect (.str format.name) = .ok format := by
  cases format <;> rfl

@[simp] theorem Log.Level.decode_name (dialect : Dialect) (level : Log.Level) :
    Log.Level.decode dialect (.str level.name) = .ok level := by
  cases level <;> rfl

/-! ## Labels -/

namespace Labels

theorem entries_insertAll (labels : Labels) (entries : List (String × String)) :
    (labels.insertAll entries).entries =
      entries.foldl (fun done entry => insertEntry entry.1 entry.2 done) labels.entries := by
  induction entries generalizing labels with
  | nil => rfl
  | cons entry rest ih => exact ih (labels.insert entry.1 entry.2)

theorem eq_of_entries {labels other : Labels} (same : labels.entries = other.entries) :
    labels = other := by
  cases labels
  cases other
  simpa using same

/-- Labels are put together again from their entries. -/
theorem insertAll_entries (labels : Labels) : empty.insertAll labels.entries = labels := by
  apply eq_of_entries
  rw [entries_insertAll]
  exact foldl_insertEntry labels.ascending

@[simp] theorem decode_toValue (dialect : Dialect) (labels : Labels) :
    decode dialect labels.toValue = .ok labels := by
  change (Decoder.entries Decoder.text dialect _).map empty.insertAll = _
  rw [Decoder.entries_text, Except.map, insertAll_entries]

theorem plain_toValue {depth : Nat} (labels : Labels) : Json.Plain (depth + 1) labels.toValue := by
  apply Json.Plain.record
  intro entry member
  obtain ⟨pair, -, rfl⟩ := List.mem_map.1 member
  exact .str pair.2

end Labels

namespace Json.Plain

variable {depth : Nat}

theorem ofId? (id : Option UInt64) : Plain depth (.ofId? id) := by
  cases id with
  | none => exact .null
  | some id => exact .int (Found.isWord_toNat id)

theorem ofText? (text : Option String) : Plain depth (.ofText? text) := by
  cases text with
  | none => exact .null
  | some text => exact .str text

end Json.Plain

/-! ## Records -/

namespace Event

theorem shape_commutes : shape.Commutes := by
  simp [RecordShape.Commutes, shape, Field.commute_of]

/-- An event is read back with the kind that the name of its kind stands for. -/
theorem decode_toValue (event : Event) :
    decode .json event.toValue = .ok { event with kind := .ofName event.kind.name } := by
  simp [decode, toValue, shape, RecordShape.decode, RecordShape.readEntries, RecordShape.field?, Field.of,
    Value.entries?, EventKind.decode_toValue]
  rfl

/-- An event comes back exactly if its kind is the one that its name stands for. -/
theorem roundTrips_iff (event : Event) :
    RoundTrips decode toValue event ↔ EventKind.ofName event.kind.name = event.kind := by
  constructor
  · rintro ⟨fields, written, back⟩
    have decodes : decode .json event.toValue = .ok event := by
      rw [written]
      exact (back fields (List.Perm.refl fields)).1
    rw [decode_toValue] at decodes
    exact congrArg Event.kind (Except.ok.inj decodes)
  · intro canonical
    have decodes : decode .json event.toValue = .ok event := by
      rw [decode_toValue, canonical]
    apply RecordShape.roundTrips shape_commutes rfl
    · simp
    · simp only [List.forall_mem_cons]
      exact ⟨.str _, .str _, .str _, .str _, .ofId? _, .int (Found.isWord_toInt _), by simp⟩
    · exact decodes

-- A kind may bear the name of another one, and is read as that one.
example : EventKind.ofName (EventKind.other "push").name ≠ .other "push" := by
  decide

/-- The kind of an event that was read is the one that its name stands for. -/
theorem ofName_name_of_decode {dialect : Dialect} {document : Value} {event : Event}
    (decodes : decode dialect document = .ok event) :
    EventKind.ofName event.kind.name = event.kind := by
  have kept : ∀ field ∈ shape.fields, ∀ value put, field.read dialect value = .ok put →
      ∀ draft : Draft, (∀ kind, draft.kind = some kind → EventKind.ofName kind.name = kind) →
        ∀ kind, (put draft).kind = some kind → EventKind.ofName kind.name = kind := by
    simp only [shape, List.forall_mem_cons]
    refine ⟨?organization, ?repository, ?sha, ?kind, ?number, ?installation, by simp⟩
    all_goals
      intro value put reads draft canonical kind filled
      obtain ⟨data, decodes, rfl⟩ := Field.read_of.1 reads
    case kind =>
      obtain rfl := Option.some.inj filled
      exact EventKind.ofName_name_of_decode decodes
    all_goals exact canonical kind filled
  obtain ⟨draft, canonical, finish⟩ := RecordShape.exists_draft_of_decode kept (by simp [shape]) decodes
  obtain ⟨organization, -, finish⟩ := RecordShape.of_required_bind finish
  obtain ⟨repository, -, finish⟩ := RecordShape.of_required_bind finish
  obtain ⟨sha, -, finish⟩ := RecordShape.of_required_bind finish
  obtain ⟨kind, held, finish⟩ := RecordShape.of_required_bind finish
  obtain rfl := Except.ok.inj finish
  exact canonical kind held

end Event

namespace Run

theorem shape_commutes : shape.Commutes := by
  simp [RecordShape.Commutes, shape, Field.commute_of]

theorem decode_toValue (run : Run) : decode .json run.toValue = .ok run := by
  simp [decode, toValue, shape, RecordShape.decode, RecordShape.readEntries, RecordShape.field?, Field.of,
    Value.entries?]
  rfl

theorem roundTrips (run : Run) : RoundTrips decode toValue run := by
  apply RecordShape.roundTrips shape_commutes rfl
  · simp
  · simp only [List.forall_mem_cons]
    exact ⟨.str _, .str _, run.labels.plain_toValue, run.annotations.plain_toValue, .ofText? _, by simp⟩
  · exact decode_toValue run

end Run

namespace Options

theorem shape_commutes : shape.Commutes := by
  simp [RecordShape.Commutes, shape, Field.commute_of]

theorem decode_toValue (options : Options) : decode .json options.toValue = .ok options := by
  simp [decode, toValue, shape, RecordShape.decode, RecordShape.readEntries, RecordShape.field?, Field.of,
    Value.entries?]
  rfl

theorem roundTrips (options : Options) : RoundTrips decode toValue options := by
  apply RecordShape.roundTrips shape_commutes rfl
  · simp
  · simp only [List.forall_mem_cons]
    exact ⟨.str _, .ofId? _, .bool _, .str _, .int (Found.isWord_toNat _), by simp⟩
  · exact decode_toValue options

end Options

namespace Log.Config

theorem shape_commutes : shape.Commutes := by
  simp [RecordShape.Commutes, shape, Field.commute_of]

theorem decode_toValue (config : Log.Config) : decode .json config.toValue = .ok config := by
  simp [decode, toValue, shape, RecordShape.decode, RecordShape.readEntries, RecordShape.field?, Field.of,
    Value.entries?]
  rfl

theorem roundTrips (config : Log.Config) : RoundTrips Log.Config.decode toValue config := by
  apply RecordShape.roundTrips shape_commutes rfl
  · simp
  · simp only [List.forall_mem_cons]
    exact ⟨.str _, .str _, .ofText? _, by simp⟩
  · exact decode_toValue config

end Log.Config

/-- Runs, options and log configurations come back from what is written for them, and so does every event
whose kind was made from a name or read. A text is read as the kind that it names, and is what that kind
is written as, in documents and in messages. What was read as an event or as a run comes back too. -/
theorem documents_are_read_back :
    (∀ run : Run, RoundTrips Run.decode Run.toValue run) ∧
    (∀ options : Options, RoundTrips Options.decode Options.toValue options) ∧
    (∀ config : Log.Config, RoundTrips Log.Config.decode Log.Config.toValue config) ∧
    (∀ event : Event,
      (∃ name, event.kind = .ofName name) ∨
          (∃ document, EventKind.decode .json document = .ok event.kind) →
        RoundTrips Event.decode Event.toValue event) ∧
    (∀ name, EventKind.decode .json (.str name) = .ok (.ofName name) ∧
      (EventKind.ofName name).name = name ∧ (EventKind.ofName name).toValue = .str name ∧
      Json.read? (Json.render (EventKind.ofName name).toValue) = some (.str name)) ∧
    (∀ document event, Event.decode .json document = .ok event →
      RoundTrips Event.decode Event.toValue event) ∧
    ∀ document run, Run.decode .json document = .ok run → RoundTrips Run.decode Run.toValue run := by
  refine ⟨Run.roundTrips, Options.roundTrips, Log.Config.roundTrips, ?made, ?named, ?event, ?run⟩
  case made =>
    intro event made
    apply (Event.roundTrips_iff event).2
    rcases made with ⟨name, same⟩ | ⟨document, decodes⟩
    · rw [same, EventKind.name_ofName]
    · exact EventKind.ofName_name_of_decode decodes
  case named =>
    intro name
    have written : (EventKind.ofName name).toValue = .str name := by
      rw [EventKind.toValue, EventKind.name_ofName]
    refine ⟨rfl, EventKind.name_ofName name, written, ?_⟩
    rw [written]
    exact Json.read?_render (.str name)
  case event =>
    intro document event decodes
    exact (Event.roundTrips_iff event).2 (Event.ofName_name_of_decode decodes)
  case run =>
    intro document run decodes
    exact Run.roundTrips run

/-- An event of a kind without a name of its own, and an event and a run that were read: the event from a
list that ends before the installation, with its kind as a record. -/
theorem documents_are_read_back_from_list :
    let created : Event := ⟨"acme", "widgets", "0123abc", .other "create", none, -7⟩
    let list : Value := .list [.str "acme", .str "widgets", .str "0123abc",
      .record [("push", .null)], .int 7]
    let pushed : Event := ⟨"acme", "widgets", "0123abc", .push, some 7, 0⟩
    let stored : Value := .record [("namespace", .str "ci"), ("labels", .record []),
      ("name", .str "build")]
    created.kind = .ofName "create" ∧ RoundTrips Event.decode Event.toValue created ∧
      Event.decode .json list = .ok pushed ∧ RoundTrips Event.decode Event.toValue pushed ∧
      Run.decode .json stored = .ok ⟨"build", "ci", ∅, ∅, none⟩ ∧
      RoundTrips Run.decode Run.toValue ⟨"build", "ci", ∅, ∅, none⟩ := by
  intro created list pushed stored
  have made : created.kind = .ofName "create" := by decide
  have event : Event.decode .json list = .ok pushed := by rfl
  have run : Run.decode .json stored = .ok ⟨"build", "ci", ∅, ∅, none⟩ := by rfl
  obtain ⟨-, -, -, madeBack, -, eventBack, runBack⟩ := documents_are_read_back
  refine ⟨made, madeBack created (.inl ⟨"create", made⟩), event, eventBack list pushed event, run, ?_⟩
  exact runBack stored _ run

end CommitChecks

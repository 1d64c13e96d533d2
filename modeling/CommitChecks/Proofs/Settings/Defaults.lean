import CommitChecks.Proofs.Document.Defaults
import CommitChecks.Proofs.Document.RoundTrips
import CommitChecks.Settings
import Mathlib.Data.List.Forall2

/-!
# Settings are defaults overridden by what is given

A table of settings has at most two sections, each with fields of its own. It is read exactly if nothing
else is given and every value is of the type of its field; each field is then what is given for it, or its
default, whatever the other fields are and in whatever order they stand.
-/

namespace CommitChecks

variable {dialect : Dialect} {entries others : List (String × Value)}

/-! ## The options -/

namespace Options

variable {options : Options}

/-- The entries that a section of options may hold. -/
inductive Takes : String × Value → Prop
  | applicationName (name : String) : Takes ("application_name", .str name)
  | applicationId (id : Option UInt64) : Takes ("application_id", .ofId? id)
  | errorDetection (flag : Bool) : Takes ("error_detection", .bool flag)
  | errorPattern (pattern : String) : Takes ("error_detection_simple_regexp", .str pattern)
  | maxLogLines (count : UInt64) :
      Takes ("error_detection_max_number_of_lines", .int count.toNat)

/-- Of the integers, a section of options takes the words alone, and only where a number is wanted. -/
theorem takes_int_iff {key : String} {n : Int} :
    Takes (key, .int n) ↔
      (key = "application_id" ∨ key = "error_detection_max_number_of_lines") ∧ 0 ≤ n ∧ n < Int.pow 2 64 := by
  constructor
  · generalize same : (key, Value.int n) = entry
    rintro (name | (- | id) | flag | pattern | count)
    case applicationId.some =>
      obtain ⟨rfl, rfl⟩ : key = "application_id" ∧ n = id.toNat := by simpa [Value.ofId?] using same
      exact ⟨.inl rfl, Int.natCast_nonneg _, Int.ofNat_lt.2 id.toNat_lt⟩
    case maxLogLines =>
      obtain ⟨rfl, rfl⟩ : key = "error_detection_max_number_of_lines" ∧ n = count.toNat := by
        simpa using same
      exact ⟨.inr rfl, Int.natCast_nonneg _, Int.ofNat_lt.2 count.toNat_lt⟩
    all_goals simp [Value.ofId?] at same
  · rintro ⟨role, nonneg, bound⟩
    have word : n = (UInt64.ofNat n.toNat).toNat := by
      rw [UInt64.toNat_ofNat_of_lt' ((Int.toNat_lt nonneg).2 bound), Int.toNat_of_nonneg nonneg]
    rw [word]
    obtain rfl | rfl := role
    · exact .applicationId (some _)
    · exact .maxLogLines _

theorem not_takes_float {key : String} {x : Real64} : ¬ Takes (key, .float x) := by
  generalize same : (key, Value.float x) = entry
  rintro (name | (- | id) | flag | pattern | count) <;> simp [Value.ofId?] at same

theorem accepts_iff_takes {entry : String × Value} : shape.Accepts dialect entry ↔ Takes entry := by
  constructor
  · intro accepted
    obtain ⟨key, value⟩ := entry
    obtain ⟨field, put, declared, rfl, reads⟩ := RecordShape.exists_field_of_accepts rfl accepted
    simp only [shape, List.mem_cons, List.not_mem_nil, or_false] at declared
    rcases declared with rfl | rfl | rfl | rfl | rfl
    all_goals obtain ⟨data, decodes, -⟩ := Field.read_of.1 reads
    · obtain rfl := Decoder.text_eq_ok_iff.1 decodes
      exact .applicationName data
    · obtain rfl := Decoder.optional_uint64_eq_ok_iff.1 decodes
      exact .applicationId data
    · obtain rfl := Decoder.boolean_eq_ok_iff.1 decodes
      exact .errorDetection data
    · obtain rfl := Decoder.text_eq_ok_iff.1 decodes
      exact .errorPattern data
    · obtain rfl := Decoder.word_eq_ok_iff.1 decodes
      exact .maxLogLines data
  · rintro (name | id | flag | pattern | count)
    · exact Field.exists_read_of rfl
    · exact Field.exists_read_of (Decoder.optional_uint64_eq_ok_iff.2 rfl)
    · exact Field.exists_read_of rfl
    · exact Field.exists_read_of rfl
    · exact Field.exists_read_of (Decoder.word_eq_ok_iff.2 rfl)

/-- A section of options is read exactly if it takes all of its entries. -/
theorem exists_decode_eq_ok_iff (distinct : (entries.map Prod.fst).Nodup) :
    (∃ options, decode dialect (.record entries) = .ok options) ↔ ∀ entry ∈ entries, Takes entry := by
  rw [decode, RecordShape.exists_decode_eq_ok_iff rfl distinct]
  simp only [accepts_iff_takes]

/-- Options as a section gives them: each field is what stands under its name, or the default. -/
structure GivenBy (entries : List (String × Value)) (options : Options) : Prop where
  applicationName : Given (fun value name => value = .str name) default.applicationName
    (entries.lookup "application_name") options.applicationName
  applicationId : Given (fun value id => value = .ofId? id) default.applicationId
    (entries.lookup "application_id") options.applicationId
  errorDetection : Given (fun value flag => value = .bool flag) default.errorDetection
    (entries.lookup "error_detection") options.errorDetection
  errorPattern : Given (fun value pattern => value = .str pattern) default.errorPattern
    (entries.lookup "error_detection_simple_regexp") options.errorPattern
  maxLogLines : Given (fun value (count : UInt64) => value = .int count.toNat) default.maxLogLines
    (entries.lookup "error_detection_max_number_of_lines") options.maxLogLines

theorem givenBy_nil : GivenBy [] default :=
  ⟨rfl, rfl, rfl, rfl, rfl⟩

theorem GivenBy.of_decode (distinct : (entries.map Prod.fst).Nodup)
    (decodes : decode dialect (.record entries) = .ok options) : GivenBy entries options := by
  constructor
  case applicationName =>
    exact RecordShape.given_of_decode rfl (by simp [RecordShape.FilledBy, shape, Field.keeps_of]) rfl
      (fun _ _ => rfl) (fun _ _ => Decoder.text_eq_ok_iff.1) distinct decodes
  case applicationId =>
    exact RecordShape.given_of_decode rfl (by simp [RecordShape.FilledBy, shape, Field.keeps_of]) rfl
      (fun _ _ => rfl) (fun _ _ => Decoder.optional_uint64_eq_ok_iff.1) distinct decodes
  case errorDetection =>
    exact RecordShape.given_of_decode rfl (by simp [RecordShape.FilledBy, shape, Field.keeps_of]) rfl
      (fun _ _ => rfl) (fun _ _ => Decoder.boolean_eq_ok_iff.1) distinct decodes
  case errorPattern =>
    exact RecordShape.given_of_decode rfl (by simp [RecordShape.FilledBy, shape, Field.keeps_of]) rfl
      (fun _ _ => rfl) (fun _ _ => Decoder.text_eq_ok_iff.1) distinct decodes
  case maxLogLines =>
    exact RecordShape.given_of_decode rfl (by simp [RecordShape.FilledBy, shape, Field.keeps_of]) rfl
      (fun _ _ => rfl) (fun _ _ => Decoder.word_eq_ok_iff.1) distinct decodes

end Options

/-! ## The log configuration -/

namespace Log

theorem Format.decode_eq_ok_iff {value : Value} {format : Format} :
    Format.decode dialect value = .ok format ↔ Decoder.Names dialect format.name value :=
  Decoder.variant_names_eq_ok_iff (by cases format <;> rfl)

theorem Level.decode_eq_ok_iff {value : Value} {level : Level} :
    Level.decode dialect value = .ok level ↔ Decoder.Names dialect level.name value :=
  Decoder.variant_names_eq_ok_iff (by cases level <;> rfl)

namespace Config

variable {config : Config}

/-- The entries that a section of a log configuration may hold. -/
inductive Takes (dialect : Dialect) : String × Value → Prop
  | format (format : Format) {value : Value} (names : Decoder.Names dialect format.name value) :
      Takes dialect ("format", value)
  | level (level : Level) {value : Value} (names : Decoder.Names dialect level.name value) :
      Takes dialect ("level", value)
  | filter (filter : Option String) : Takes dialect ("filter", .ofText? filter)

theorem not_takes_float {key : String} {x : Real64} : ¬ Takes dialect (key, .float x) := by
  generalize same : (key, Value.float x) = entry
  rintro (⟨format, - | -⟩ | ⟨level, - | -⟩ | (- | text)) <;> simp [Value.ofText?] at same

theorem accepts_iff_takes {entry : String × Value} :
    shape.Accepts dialect entry ↔ Takes dialect entry := by
  constructor
  · intro accepted
    obtain ⟨key, value⟩ := entry
    obtain ⟨field, put, declared, rfl, reads⟩ := RecordShape.exists_field_of_accepts rfl accepted
    simp only [shape, List.mem_cons, List.not_mem_nil, or_false] at declared
    rcases declared with rfl | rfl | rfl
    all_goals obtain ⟨data, decodes, -⟩ := Field.read_of.1 reads
    · exact .format data (Format.decode_eq_ok_iff.1 decodes)
    · exact .level data (Level.decode_eq_ok_iff.1 decodes)
    · obtain rfl := Decoder.optional_text_eq_ok_iff.1 decodes
      exact .filter data
  · rintro (⟨format, names⟩ | ⟨level, names⟩ | filter)
    · exact Field.exists_read_of (Format.decode_eq_ok_iff.2 names)
    · exact Field.exists_read_of (Level.decode_eq_ok_iff.2 names)
    · exact Field.exists_read_of (Decoder.optional_text_eq_ok_iff.2 rfl)

/-- A section of a log configuration is read exactly if it takes all of its entries. -/
theorem exists_decode_eq_ok_iff (distinct : (entries.map Prod.fst).Nodup) :
    (∃ config, Config.decode dialect (.record entries) = .ok config) ↔
      ∀ entry ∈ entries, Takes dialect entry := by
  rw [Config.decode, RecordShape.exists_decode_eq_ok_iff rfl distinct]
  simp only [accepts_iff_takes]

/-- A log configuration as a section gives it: each field is what stands under its name, or the default. -/
structure GivenBy (dialect : Dialect) (entries : List (String × Value)) (config : Config) : Prop where
  format : Given (fun value format => Decoder.Names dialect (Format.name format) value) default.format
    (entries.lookup "format") config.format
  level : Given (fun value level => Decoder.Names dialect (Level.name level) value) default.level
    (entries.lookup "level") config.level
  filter : Given (fun value filter => value = .ofText? filter) default.filter
    (entries.lookup "filter") config.filter

theorem givenBy_nil : GivenBy dialect [] default :=
  ⟨rfl, rfl, rfl⟩

theorem GivenBy.of_decode (distinct : (entries.map Prod.fst).Nodup)
    (decodes : Config.decode dialect (.record entries) = .ok config) :
    GivenBy dialect entries config := by
  constructor
  case format =>
    exact RecordShape.given_of_decode rfl (by simp [RecordShape.FilledBy, shape, Field.keeps_of]) rfl
      (fun _ _ => rfl) (fun _ _ => Format.decode_eq_ok_iff.1) distinct decodes
  case level =>
    exact RecordShape.given_of_decode rfl (by simp [RecordShape.FilledBy, shape, Field.keeps_of]) rfl
      (fun _ _ => rfl) (fun _ _ => Level.decode_eq_ok_iff.1) distinct decodes
  case filter =>
    exact RecordShape.given_of_decode rfl (by simp [RecordShape.FilledBy, shape, Field.keeps_of]) rfl
      (fun _ _ => rfl) (fun _ _ => Decoder.optional_text_eq_ok_iff.1) distinct decodes

end Config
end Log

/-! ## The settings -/

namespace Settings

variable {settings : Settings}

theorem shape_commutes : shape.Commutes := by
  simp [RecordShape.Commutes, shape, Field.commute_of]

/-- Whether a value is a table with distinct keys. -/
def IsSection (value : Value) : Prop :=
  ∃ fields, value = .record fields ∧ (fields.map Prod.fst).Nodup

/-- A table of settings: its keys are distinct, and so are those of its sections, which are tables. -/
structure IsTable (entries : List (String × Value)) : Prop where
  distinct : (entries.map Prod.fst).Nodup
  sections : ∀ entry ∈ entries, entry.1 = "pac" ∨ entry.1 = "logging" → IsSection entry.2

/-- The entries of a section, of which there are none if it is absent. -/
def sectionOf (entries : List (String × Value)) (name : String) : List (String × Value) :=
  ((entries.lookup name).bind Value.entries?).getD []

/-- Whether a value is another one with the entries of a record in another order. -/
inductive Reordered : Value → Value → Prop
  | refl (value : Value) : Reordered value value
  | record {fields others : List (String × Value)} (perm : others.Perm fields) :
      Reordered (.record fields) (.record others)

/-- Whether a table is another one with its sections, and their keys, in another order. -/
def Rearranged (entries others : List (String × Value)) : Prop :=
  ∃ between, List.Forall₂ (fun entry other => entry.1 = other.1 ∧ Reordered entry.2 other.2) entries between ∧
    others.Perm between

theorem accepts_iff {key : String} {value : Value} :
    shape.Accepts dialect (key, value) ↔
      (key = "pac" ∧ ∃ options, Options.decode dialect value = .ok options) ∨
        (key = "logging" ∧ ∃ config, Log.Config.decode dialect value = .ok config) := by
  constructor
  · intro accepted
    obtain ⟨field, put, declared, rfl, reads⟩ := RecordShape.exists_field_of_accepts rfl accepted
    simp only [shape, List.mem_cons, List.not_mem_nil, or_false] at declared
    rcases declared with rfl | rfl
    all_goals obtain ⟨data, decodes, -⟩ := Field.read_of.1 reads
    · exact .inl ⟨rfl, data, decodes⟩
    · exact .inr ⟨rfl, data, decodes⟩
  · rintro (⟨rfl, options, decodes⟩ | ⟨rfl, config, decodes⟩)
    · exact Field.exists_read_of decodes
    · exact Field.exists_read_of decodes

namespace IsTable

variable {name : String} (table : IsTable entries) (known : name = "pac" ∨ name = "logging")

include table known

/-- A section is absent and empty, or a table with distinct keys. -/
theorem section_cases :
    (entries.lookup name = none ∧ sectionOf entries name = []) ∨
      ∃ fields, entries.lookup name = some (.record fields) ∧ sectionOf entries name = fields ∧
        (fields.map Prod.fst).Nodup := by
  cases found : entries.lookup name with
  | none =>
    left
    rw [sectionOf, found]
    exact ⟨rfl, rfl⟩
  | some value =>
    right
    obtain ⟨fields, same, distinct⟩ := table.sections (name, value) (mem_of_lookup found) known
    obtain rfl : value = .record fields := same
    refine ⟨fields, rfl, ?_, distinct⟩
    rw [sectionOf, found]
    rfl

/-- A section is taken if the value under its name is read, if there is one. -/
theorem forall_mem_sectionOf_iff {takes : String × Value → Prop} {readable : Value → Prop}
    (reads : ∀ fields, (fields.map Prod.fst).Nodup →
      (readable (.record fields) ↔ ∀ entry ∈ fields, takes entry)) :
    (∀ entry ∈ sectionOf entries name, takes entry) ↔
      ∀ value, (name, value) ∈ entries → readable value := by
  simp only [← lookup_eq_some_iff_mem table.distinct]
  obtain ⟨absent, empty⟩ | ⟨fields, found, same, distinct⟩ := table.section_cases known
  · simp [absent, empty]
  · simp [found, same, reads fields distinct]

/-- What holds of the data in a table with distinct keys, and of the default without any, holds of the data
in a section. -/
theorem given_sectionOf {α : Type} {reader : Decoder α} {default data : α}
    {givenBy : List (String × Value) → α → Prop} (empty : givenBy [] default)
    (record : ∀ fields, (fields.map Prod.fst).Nodup →
      reader dialect (.record fields) = .ok data → givenBy fields data)
    (given : Given (fun value data => reader dialect value = .ok data) default (entries.lookup name) data) :
    givenBy (sectionOf entries name) data := by
  obtain ⟨absent, none⟩ | ⟨fields, found, same, distinct⟩ := table.section_cases known
  · rw [absent] at given
    obtain rfl : data = default := given
    rwa [none]
  · rw [found] at given
    rw [same]
    exact record fields distinct given

end IsTable

/-- A table is read exactly if it holds nothing but the two sections, and each of them nothing but its own
fields with values of their types. -/
theorem exists_decode_eq_ok_iff (table : IsTable entries) :
    (∃ settings, decode dialect (.record entries) = .ok settings) ↔
      (∀ entry ∈ entries, entry.1 = "pac" ∨ entry.1 = "logging") ∧
      (∀ entry ∈ sectionOf entries "pac", Options.Takes entry) ∧
      ∀ entry ∈ sectionOf entries "logging", Log.Config.Takes dialect entry := by
  have pac : (∀ entry ∈ sectionOf entries "pac", Options.Takes entry) ↔
      ∀ value, ("pac", value) ∈ entries → ∃ options, Options.decode dialect value = .ok options :=
    table.forall_mem_sectionOf_iff (.inl rfl) fun _ => Options.exists_decode_eq_ok_iff
  have logging : (∀ entry ∈ sectionOf entries "logging", Log.Config.Takes dialect entry) ↔
      ∀ value, ("logging", value) ∈ entries → ∃ config, Log.Config.decode dialect value = .ok config :=
    table.forall_mem_sectionOf_iff (.inr rfl) fun _ => Log.Config.exists_decode_eq_ok_iff
  rw [decode, RecordShape.exists_decode_eq_ok_iff rfl table.distinct, pac, logging]
  constructor
  · intro accepted
    refine ⟨?known, ?pac, ?logging⟩
    case known =>
      intro entry member
      exact (accepts_iff.1 (accepted entry member)).imp And.left And.left
    case pac =>
      intro value member
      simpa using accepts_iff.1 (accepted _ member)
    case logging =>
      intro value member
      simpa using accepts_iff.1 (accepted _ member)
  · rintro ⟨known, pac, logging⟩ ⟨key, value⟩ member
    apply accepts_iff.2
    obtain rfl | rfl := known (key, value) member
    · exact .inl ⟨rfl, pac value member⟩
    · exact .inr ⟨rfl, logging value member⟩

/-- What is read from a table: each section gives its part of the settings. -/
theorem givenBy_of_decode (table : IsTable entries)
    (decodes : decode dialect (.record entries) = .ok settings) :
    settings.options.GivenBy (sectionOf entries "pac") ∧
      settings.logging.GivenBy dialect (sectionOf entries "logging") := by
  constructor
  · apply table.given_sectionOf (.inl rfl) Options.givenBy_nil fun _ => Options.GivenBy.of_decode
    exact RecordShape.given_of_decode rfl (by simp [RecordShape.FilledBy, shape, Field.keeps_of]) rfl
      (fun _ _ => rfl) (fun _ _ reads => reads) table.distinct decodes
  · apply table.given_sectionOf (.inr rfl) Log.Config.givenBy_nil fun _ => Log.Config.GivenBy.of_decode
    exact RecordShape.given_of_decode rfl (by simp [RecordShape.FilledBy, shape, Field.keeps_of]) rfl
      (fun _ _ => rfl) (fun _ _ reads => reads) table.distinct decodes

/-- Sections are read alike in any order of their keys. -/
theorem alike_of_reordered {key : String} {value other : Value}
    (isSection : key = "pac" ∨ key = "logging" → IsSection value)
    (reordered : Reordered value other) : shape.Alike dialect (key, value) (key, other) := by
  refine ⟨rfl, ?_⟩
  intro field known fill
  obtain ⟨declared, rfl⟩ := RecordShape.name_of_field? known
  cases reordered with
  | refl => rfl
  | @record fields others perm =>
    simp only [shape, List.mem_cons, List.not_mem_nil, or_false] at declared
    rcases declared with rfl | rfl
    · obtain ⟨_, table, distinct⟩ := isSection (.inl rfl)
      obtain rfl := Value.record.inj table
      have same (options : Options) : Options.decode dialect (.record fields) = .ok options ↔
          Options.decode dialect (.record others) = .ok options :=
        Options.shape_commutes.decode_perm_iff distinct perm
      simp only [Field.read_of, same]
    · obtain ⟨_, table, distinct⟩ := isSection (.inr rfl)
      obtain rfl := Value.record.inj table
      have same (config : Log.Config) : Log.Config.decode dialect (.record fields) = .ok config ↔
          Log.Config.decode dialect (.record others) = .ok config :=
        Log.Config.shape_commutes.decode_perm_iff distinct perm
      simp only [Field.read_of, same]

/-- A table is read alike in any order of its sections and their keys, or in none. -/
theorem decode_of_rearranged (table : IsTable entries) (rearranged : Rearranged entries others) :
    decode dialect (.record entries) = .ok settings ↔ decode dialect (.record others) = .ok settings := by
  obtain ⟨between, reordered, perm⟩ := rearranged
  have alike : List.Forall₂ (shape.Alike dialect) entries between := by
    refine List.Forall₂.imp ?_ ((List.forall₂_and_left _ _).2 ⟨table.sections, reordered⟩)
    rintro ⟨key, value⟩ ⟨_, other⟩ ⟨isSection, rfl, reordered⟩
    exact alike_of_reordered isSection reordered
  have sameKeys : List.Forall₂ (· = ·) (entries.map Prod.fst) (between.map Prod.fst) := by
    rw [List.forall₂_map_left_iff, List.forall₂_map_right_iff]
    exact reordered.imp fun _ _ => And.left
  rw [List.forall₂_eq_eq_eq] at sameKeys
  have distinct : (between.map Prod.fst).Nodup := sameKeys ▸ table.distinct
  exact (RecordShape.decode_congr alike).trans (shape_commutes.decode_perm_iff distinct perm)

/-- What is read from a text is what the table in it comes to. -/
theorem read_eq_ok_iff {path : Option String} {text : String} {table : Value}
    (parsed : Toml.read? text = some table) :
    read path text = .ok settings ↔ decode .toml table = .ok settings := by
  simp only [read, parsed]
  cases decode .toml table <;> simp

/-- Settings are read from a table exactly if nothing but the two sections is given, and in each of them
nothing but its own fields with values of their types: no float for any of them, and no integer outside the
words. Each field is then what is given for it, or its default, and the order of the sections and their keys
does not matter. -/
theorem settings_override_defaults (dialect : Dialect) {entries : List (String × Value)}
    (table : IsTable entries) :
    ((∃ settings, decode dialect (.record entries) = .ok settings) ↔
      (∀ entry ∈ entries, entry.1 = "pac" ∨ entry.1 = "logging") ∧
      (∀ entry ∈ sectionOf entries "pac", Options.Takes entry) ∧
      ∀ entry ∈ sectionOf entries "logging", Log.Config.Takes dialect entry) ∧
    (∀ key (n : Int), Options.Takes (key, .int n) ↔
      (key = "application_id" ∨ key = "error_detection_max_number_of_lines") ∧ 0 ≤ n ∧ n < Int.pow 2 64) ∧
    (∀ key x, ¬ Options.Takes (key, .float x) ∧ ¬ Log.Config.Takes dialect (key, .float x)) ∧
    (∀ settings, decode dialect (.record entries) = .ok settings →
      settings.options.GivenBy (sectionOf entries "pac") ∧
        settings.logging.GivenBy dialect (sectionOf entries "logging")) ∧
    (∀ others, Rearranged entries others → ∀ settings,
      decode dialect (.record entries) = .ok settings ↔ decode dialect (.record others) = .ok settings) ∧
    ∀ path text, Toml.read? text = some (.record entries) → ∀ settings,
      read path text = .ok settings ↔ decode .toml (.record entries) = .ok settings :=
  ⟨exists_decode_eq_ok_iff table, fun _ _ => Options.takes_int_iff,
    fun _ _ => ⟨Options.not_takes_float, Log.Config.not_takes_float⟩, fun _ => givenBy_of_decode table,
    fun _ rearranged _ => decode_of_rearranged table rearranged, fun _ _ parsed _ => read_eq_ok_iff parsed⟩

/-- A table with some keys of both sections and the same one in the opposite order, and a text that gives
nothing. -/
theorem settings_override_defaults_of_reversed_table :
    let entries : List (String × Value) := [
      ("logging", .record [("level", .str "debug"), ("format", .str "json")]),
      ("pac", .record [("application_id", .int 1234), ("error_detection", .bool true)])]
    let others : List (String × Value) := [
      ("pac", .record [("error_detection", .bool true), ("application_id", .int 1234)]),
      ("logging", .record [("format", .str "json"), ("level", .str "debug")])]
    let settings : Settings :=
      ⟨⟨"Pipelines as Code CI", some 1234, true, Options.defaultErrorPattern, 50⟩, ⟨.json, .debug, none⟩⟩
    IsTable entries ∧ Rearranged entries others ∧ decode .toml (.record entries) = .ok settings ∧
      decode .toml (.record others) = .ok settings ∧
      settings.options.GivenBy (sectionOf entries "pac") ∧
      settings.logging.GivenBy .toml (sectionOf entries "logging") ∧
      IsTable [("pac", .record [])] ∧ Toml.read? "[pac]" = some (.record [("pac", .record [])]) ∧
      read none "[pac]" = .ok default := by
  intro entries others settings
  have table : IsTable entries := by
    refine ⟨by decide, ?_⟩
    simp only [entries, List.forall_mem_cons]
    exact ⟨fun _ => ⟨_, rfl, by decide⟩, fun _ => ⟨_, rfl, by decide⟩, by simp⟩
  have rearranged : Rearranged entries others := by
    refine ⟨others.reverse, ?_, (List.reverse_perm others).symm⟩
    exact .cons ⟨rfl, .record (.swap ..)⟩ (.cons ⟨rfl, .record (.swap ..)⟩ .nil)
  have decodes : decode .toml (.record entries) = .ok settings := by rfl
  obtain ⟨-, -, -, given, reordered, -⟩ := settings_override_defaults .toml table
  obtain ⟨options, logging⟩ := given settings decodes
  have bare : IsTable [("pac", .record [])] := by
    refine ⟨by decide, ?_⟩
    rw [List.forall_mem_singleton]
    exact fun _ => ⟨_, rfl, by decide⟩
  have parsed : Toml.read? "[pac]" = some (.record [("pac", .record [])]) := by rfl
  obtain ⟨-, -, -, -, -, reads⟩ := settings_override_defaults .toml bare
  exact ⟨table, rearranged, decodes, (reordered others rearranged settings).1 decodes, options, logging,
    bare, parsed, (reads none "[pac]" parsed default).2 rfl⟩

end Settings
end CommitChecks

import CommitChecks.GitHub.Reply
import CommitChecks.Proofs.Document.RecordEntries

/-!
# Checks as the hosting service shows them

The hosting service keeps a check as a record with an external identifier and the words of its output.
It shows records as items on pages; an item or a page may hold further entries, in any order, and what
is absent may be left out or null. Pages are read back as the records they show, except that an empty
external identifier counts as none.
-/

namespace CommitChecks.GitHub

/-- A check as the hosting service keeps it. -/
structure CheckRecord where
  id : UInt64
  externalId : Option String
  title : Option String
  summary : Option String
  deriving DecidableEq

namespace CheckRecord

/-- The check that a listing gives for a record. -/
def listed (record : CheckRecord) : ExistingCheck :=
  ⟨record.id, record.externalId.filter (· ≠ ""), record.title, record.summary⟩

/-- An external identifier that is not empty is kept. -/
theorem listed_of_ne_empty {name : String} (named : name ≠ "") (id : UInt64)
    (title summary : Option String) :
    listed ⟨id, some name, title, summary⟩ = ⟨id, some name, title, summary⟩ := by
  simp [listed, named]

/-- The item that shows a record and nothing else. -/
def item (record : CheckRecord) : Value :=
  .record [
    ("id", .int record.id.toNat),
    ("external_id", .ofText? record.externalId),
    ("output", .record [("title", .ofText? record.title), ("summary", .ofText? record.summary)])]

end CheckRecord

/-- The page that shows records and nothing else. -/
def pageDocument (total : UInt64) (records : List CheckRecord) : Value :=
  .record [
    ("total_count", .int total.toNat),
    ("check_runs", .list (records.map CheckRecord.item))]

/-- Whether the entries of an output show a title and a summary. -/
structure OutputShows (entries : List (String × Value)) (title summary : Option String) : Prop where
  distinct : (entries.map Prod.fst).Nodup
  title : HoldsText entries "title" title
  summary : HoldsText entries "summary" summary

/-- Whether the entries of an item show a record. -/
structure ItemShows (entries : List (String × Value)) (record : CheckRecord) : Prop where
  distinct : (entries.map Prod.fst).Nodup
  id : entries.lookup "id" = some (.int record.id.toNat)
  externalId : HoldsText entries "external_id" record.externalId
  output : (∃ output, entries.lookup "output" = some (.record output) ∧
      OutputShows output record.title record.summary) ∨
    entries.lookup "output" = none ∧ record.title = none ∧ record.summary = none

/-- Whether a page shows records and a number of checks in all. -/
inductive PageShows (total : UInt64) (records : List CheckRecord) : Value → Prop
  | mk {entries : List (String × Value)} {items : List (List (String × Value))}
      (distinct : (entries.map Prod.fst).Nodup)
      (totalCount : entries.lookup "total_count" = some (.int total.toNat))
      (checks : entries.lookup "check_runs" = some (.list (items.map .record)))
      (shown : List.Forall₂ ItemShows items records) :
      PageShows total records (.record entries)

/-! ## What the library would write -/

private theorem holdsText_ofText? {entries : List (String × Value)} {key : String}
    {text : Option String} (found : entries.lookup key = some (.ofText? text)) :
    HoldsText entries key text := by
  cases text with
  | none => exact .inr ⟨rfl, found⟩
  | some words => exact .inl found

private theorem itemShows_item (record : CheckRecord) :
    ∃ entries, record.item = .record entries ∧ ItemShows entries record := by
  refine ⟨_, rfl, by simp, rfl, holdsText_ofText? rfl, .inl ⟨_, rfl, ?_⟩⟩
  exact ⟨by simp, holdsText_ofText? rfl, holdsText_ofText? rfl⟩

/-- A page that shows records and nothing else is one that shows them. -/
theorem pageShows_pageDocument (total : UInt64) (records : List CheckRecord) :
    PageShows total records (pageDocument total records) := by
  have shown : ∃ items : List (List (String × Value)),
      records.map CheckRecord.item = items.map .record ∧ List.Forall₂ ItemShows items records := by
    induction records with
    | nil => exact ⟨[], rfl, .nil⟩
    | cons record rest ih =>
      obtain ⟨entries, same, shows⟩ := itemShows_item record
      obtain ⟨items, others, shown⟩ := ih
      exact ⟨entries :: items, by rw [List.map_cons, List.map_cons, same, others], .cons shows shown⟩
  obtain ⟨items, same, shown⟩ := shown
  exact .mk (by simp) rfl (by rw [← same]; rfl) shown

/-! ## Which field fills what -/

theorem ListedOutput.title_filledBy : ListedOutput.shape.FilledBy "title" ListedOutput.title :=
  List.forall_mem_cons.2 ⟨fun differ => absurd rfl differ,
    List.forall_mem_singleton.2 fun _ => Field.keeps_of fun _ _ => rfl⟩

theorem ListedOutput.summary_filledBy : ListedOutput.shape.FilledBy "summary" ListedOutput.summary :=
  List.forall_mem_cons.2 ⟨fun _ => Field.keeps_of fun _ _ => rfl,
    List.forall_mem_singleton.2 fun differ => absurd rfl differ⟩

theorem ListedDraft.id_filledBy : listedShape.FilledBy "id" ListedDraft.id :=
  List.forall_mem_cons.2 ⟨fun differ => absurd rfl differ,
    List.forall_mem_cons.2 ⟨fun _ => Field.keeps_of fun _ _ => rfl,
      List.forall_mem_singleton.2 fun _ => Field.keeps_of fun _ _ => rfl⟩⟩

theorem ListedDraft.externalId_filledBy :
    listedShape.FilledBy "external_id" ListedDraft.externalId :=
  List.forall_mem_cons.2 ⟨fun _ => Field.keeps_of fun _ _ => rfl,
    List.forall_mem_cons.2 ⟨fun differ => absurd rfl differ,
      List.forall_mem_singleton.2 fun _ => Field.keeps_of fun _ _ => rfl⟩⟩

theorem ListedDraft.output_filledBy : listedShape.FilledBy "output" ListedDraft.output :=
  List.forall_mem_cons.2 ⟨fun _ => Field.keeps_of fun _ _ => rfl,
    List.forall_mem_cons.2 ⟨fun _ => Field.keeps_of fun _ _ => rfl,
      List.forall_mem_singleton.2 fun differ => absurd rfl differ⟩⟩

theorem PageDraft.totalCount_filledBy : Page.shape.FilledBy "total_count" PageDraft.totalCount :=
  List.forall_mem_cons.2 ⟨fun differ => absurd rfl differ,
    List.forall_mem_singleton.2 fun _ => Field.keeps_of fun _ _ => rfl⟩

theorem PageDraft.checks_filledBy : Page.shape.FilledBy "check_runs" PageDraft.checks :=
  List.forall_mem_cons.2 ⟨fun _ => Field.keeps_of fun _ _ => rfl,
    List.forall_mem_singleton.2 fun differ => absurd rfl differ⟩

/-! ## Reading what is shown -/

theorem OutputShows.decode {entries : List (String × Value)} {title summary : Option String}
    (shows : OutputShows entries title summary) :
    ListedOutput.shape.decode .json (.record entries) = .ok ⟨title, summary⟩ := by
  have readable : ∀ field ∈ ListedOutput.shape.fields, ∀ value,
      entries.lookup field.name = some value → ∃ put, field.read .json value = .ok put :=
    List.forall_mem_cons.2
      ⟨fun value found => Field.exists_read_of (shows.title.decodes .json found),
        List.forall_mem_singleton.2 fun value found =>
          Field.exists_read_of (shows.summary.decodes .json found)⟩
  obtain ⟨final, read, decodes⟩ := RecordShape.decode_record rfl shows.distinct readable
  have titleRead : final.title = title :=
    shows.title.get_readEntries ListedOutput.title_filledBy rfl (fun _ _ => rfl) shows.distinct rfl read
  have summaryRead : final.summary = summary :=
    shows.summary.get_readEntries ListedOutput.summary_filledBy rfl (fun _ _ => rfl) shows.distinct
      rfl read
  rw [decodes, ← titleRead, ← summaryRead]
  rfl

/-- An item is read as the check that it shows. -/
theorem ItemShows.decode {entries : List (String × Value)} {record : CheckRecord}
    (shows : ItemShows entries record) :
    listedShape.decode .json (.record entries) = .ok record.listed := by
  have outputReads : ∀ value, entries.lookup "output" = some value →
      ListedOutput.shape.decode .json value = .ok ⟨record.title, record.summary⟩ := by
    intro value found
    obtain ⟨output, present, words⟩ | ⟨absent, -⟩ := shows.output
    · obtain rfl := Option.some.inj (found.symm.trans present)
      exact words.decode
    · rw [absent] at found
      contradiction
  have idReads : ∀ value, entries.lookup "id" = some value →
      Decoder.uint64 .json value = .ok record.id := by
    intro value found
    obtain rfl := Option.some.inj (found.symm.trans shows.id)
    exact Decoder.uint64_int .json record.id
  have readable : ∀ field ∈ listedShape.fields, ∀ value,
      entries.lookup field.name = some value → ∃ put, field.read .json value = .ok put :=
    List.forall_mem_cons.2 ⟨fun value found => Field.exists_read_of (idReads value found),
      List.forall_mem_cons.2
        ⟨fun value found => Field.exists_read_of (shows.externalId.decodes .json found),
          List.forall_mem_singleton.2 fun value found =>
            Field.exists_read_of (outputReads value found)⟩⟩
  obtain ⟨final, read, decodes⟩ := RecordShape.decode_record rfl shows.distinct readable
  have idRead : final.id = some record.id := by
    obtain ⟨before, same⟩ := RecordShape.get_readEntries_of_lookup ListedDraft.id_filledBy rfl
      shows.distinct read shows.id (idReads _ shows.id)
    exact same
  have externalIdRead : final.externalId = record.externalId :=
    shows.externalId.get_readEntries ListedDraft.externalId_filledBy rfl (fun _ _ => rfl)
      shows.distinct rfl read
  have outputRead : final.output = ⟨record.title, record.summary⟩ := by
    obtain ⟨output, present, words⟩ | ⟨absent, noTitle, noSummary⟩ := shows.output
    · obtain ⟨before, same⟩ := RecordShape.get_readEntries_of_lookup ListedDraft.output_filledBy rfl
        shows.distinct read present words.decode
      exact same
    · rw [(RecordShape.get_readEntries ListedDraft.output_filledBy rfl shows.distinct read).1 absent,
        noTitle, noSummary]
      rfl
  obtain ⟨id, externalId, output⟩ := final
  obtain rfl := idRead
  obtain rfl := externalIdRead
  obtain rfl := outputRead
  exact decodes

private theorem decode_items {items : List (List (String × Value))} {records : List CheckRecord}
    (shown : List.Forall₂ ItemShows items records) :
    Decoder.list listedShape.decode .json (.list (items.map .record)) =
      .ok (records.map CheckRecord.listed) := by
  change Decoder.items listedShape.decode .json (items.map .record) = _
  induction shown with
  | nil => rfl
  | cons shows rest ih => rw [List.map_cons, Decoder.items, shows.decode, ih]; rfl

/-- A page is read as the checks that it shows, in their order, and the number of checks in all. -/
theorem PageShows.decode {total : UInt64} {records : List CheckRecord} {document : Value}
    (shows : PageShows total records document) :
    Page.decode .json document = .ok ⟨total, records.map CheckRecord.listed⟩ := by
  obtain ⟨distinct, totalCount, checks, shown⟩ := shows
  rename_i entries items
  have readable : ∀ field ∈ Page.shape.fields, ∀ value,
      entries.lookup field.name = some value → ∃ put, field.read .json value = .ok put := by
    refine List.forall_mem_cons.2 ⟨fun value found => ?_,
      List.forall_mem_singleton.2 fun value found => ?_⟩
    · obtain rfl := Option.some.inj (found.symm.trans totalCount)
      exact Field.exists_read_of (Decoder.uint64_int .json total)
    · obtain rfl := Option.some.inj (found.symm.trans checks)
      exact Field.exists_read_of (decode_items shown)
  obtain ⟨final, read, decodes⟩ := RecordShape.decode_record rfl distinct readable
  have totalRead : final.totalCount = some total := by
    obtain ⟨before, same⟩ := RecordShape.get_readEntries_of_lookup PageDraft.totalCount_filledBy rfl
      distinct read totalCount (Decoder.uint64_int .json total)
    exact same
  have checksRead : final.checks = records.map CheckRecord.listed := by
    obtain ⟨before, same⟩ := RecordShape.get_readEntries_of_lookup PageDraft.checks_filledBy rfl
      distinct read checks (decode_items shown)
    exact same
  obtain ⟨totalCount, checks⟩ := final
  obtain rfl := totalRead
  obtain rfl := checksRead
  exact decodes

end CommitChecks.GitHub

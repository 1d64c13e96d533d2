import CommitChecks.GitHub.Client
import CommitChecks.Proofs.CallTurn
import CommitChecks.Proofs.GitHub.CheckRecord
import CommitChecks.Proofs.GitHub.Writes

/-!
# The register of a hosting service

The hosting service keeps what it reads in the bodies of requests: a creation starts a record with the
external identifier in its body, an update overwrites what its body holds. The client reads records
back off the pages that show them. Bodies and pages are written and read apart from each other; here
they are put together: what a record was given is what it is read back with.
-/

namespace CommitChecks

/-- The check that a call updated. -/
def Turn.updatedId? : CallTurn → Option UInt64
  | ⟨.update _ id _, .ok _⟩ => some id
  | _ => none

theorem Turn.eq_of_updatedId? {turn : CallTurn} {id : UInt64} (updates : turn.updatedId? = some id) :
    ∃ event contents, turn = ⟨.update event id contents, .ok ()⟩ := by
  obtain ⟨question, answer⟩ := turn
  cases question with
  | update event target contents =>
    cases answer with
    | ok =>
      obtain rfl := Option.some.inj updates
      exact ⟨event, contents, rfl⟩
    | error => exact nomatch updates
  | _ => exact nomatch updates

theorem Turn.eq_of_createdId? {turn : CallTurn} {id : UInt64} (creates : turn.createdId? = some id) :
    ∃ event check, turn = ⟨.create event check, .ok id⟩ := by
  obtain ⟨question, answer⟩ := turn
  cases question with
  | create event check =>
    cases answer with
    | ok =>
      obtain rfl := Option.some.inj creates
      exact ⟨event, check, rfl⟩
    | error => exact nomatch creates
  | _ => exact nomatch creates

namespace GitHub

/-! ## What the service reads in a body -/

/-- A text after what was written over it, if anything was. -/
def overwrite (written : Option Value) (old : Option String) : Option String :=
  match written with
  | none => old
  | some (.str text) => some text
  | some _ => none

theorem lookup_textEntry {key name : String} (differ : key ≠ name) (text : String) :
    (textEntry name text).lookup key = none := by
  unfold textEntry
  split
  · rfl
  · rw [lookup_cons_eq_ite, if_neg differ, List.lookup_nil]

theorem lookup_optionalEntry {key name : String} (differ : key ≠ name) (text : Option String) :
    (optionalEntry name text).lookup key = none := by
  cases text with
  | none => rfl
  | some text => rw [optionalEntry, lookup_cons_eq_ite, if_neg differ, List.lookup_nil]

theorem lookup_optionalEntry_self (name : String) (text : Option String) :
    (optionalEntry name text).lookup name = text.map Value.str := by
  cases text with
  | none => rfl
  | some text => rw [optionalEntry, lookup_cons_eq_ite, if_pos rfl, Option.map_some]

namespace CheckRecord

/-- The record of a check that is created with a body. -/
def created (id : UInt64) (body : Value) : CheckRecord :=
  ⟨id, overwrite (body.get? "external_id") none, none, none⟩

/-- The record after an update with a body. -/
def updated (record : CheckRecord) (body : Value) : CheckRecord :=
  let output := body.get? "output"
  { record with
    externalId := overwrite (body.get? "external_id") record.externalId
    title := overwrite (output.bind (·.get? "title")) record.title
    summary := overwrite (output.bind (·.get? "summary")) record.summary }

/-- A body that asks for a new check holds its external identifier. -/
theorem created_createBody (id : UInt64) (check : NewCheck) :
    created id (createBody check) = ⟨id, some check.externalId, none, none⟩ := by
  have written : (createBody check).get? "external_id" = some (.str check.externalId) := by
    change List.lookup _ _ = _
    rw [List.lookup_append, List.lookup_append, lookup_textEntry (by decide)]
    rfl
  rw [created, written, overwrite]

/-- A body that asks for new contents holds a title and a summary, and an external identifier if one is
given. -/
theorem updated_updateBody (record : CheckRecord) (contents : CheckUpdate) :
    record.updated (updateBody contents) =
      ⟨record.id, contents.externalId.or record.externalId, some contents.output.title,
        some contents.output.summary⟩ := by
  have words : (updateBody contents).get? "output" = some (outputBody contents.output) := rfl
  have title : (outputBody contents.output).get? "title" = some (.str contents.output.title) := rfl
  have summary : (outputBody contents.output).get? "summary" =
      some (.str contents.output.summary) := rfl
  have written : (updateBody contents).get? "external_id" = contents.externalId.map .str := by
    change List.lookup _ _ = _
    rw [List.lookup_append, List.lookup_append, List.lookup_append, List.lookup_append,
      lookup_optionalEntry (by decide), lookup_optionalEntry (by decide),
      lookup_optionalEntry (by decide), lookup_optionalEntry_self]
    rfl
  rw [updated, words, Option.bind_some, Option.bind_some, title, summary, written]
  cases contents.externalId <;> rfl

end CheckRecord

/-! ## The records that the service keeps -/

namespace Register

/-- The records after a call. A call that fails changes nothing. -/
def afterTurn (records : List CheckRecord) : CallTurn → List CheckRecord
  | ⟨.create _ check, .ok id⟩ => records ++ [.created id (createBody check)]
  | ⟨.update _ id contents, .ok _⟩ =>
    records.map fun record => if record.id = id then record.updated (updateBody contents) else record
  | _ => records

/-- The records after calls. -/
def afterTurns (records : List CheckRecord) (turns : List CallTurn) : List CheckRecord :=
  turns.foldl afterTurn records

/-- Whether a reply is one that a service with these records can give: a new check has an identifier of
its own, and only a check that is there is updated. -/
structure Allows (records : List CheckRecord) (turn : CallTurn) : Prop where
  created : ∀ id, turn.createdId? = some id → id ∉ records.map CheckRecord.id
  updated : ∀ id, turn.updatedId? = some id → id ∈ records.map CheckRecord.id

/-- Whether all replies are ones that a service with these records at first can give. -/
def Keeps : List CheckRecord → List CallTurn → Prop
  | _, [] => True
  | records, turn :: rest => Allows records turn ∧ Keeps (afterTurn records turn) rest

-- Only the identifiers that the call created or updated are looked at.
instance (records : List CheckRecord) (turn : CallTurn) : Decidable (Allows records turn) :=
  decidable_of_iff
    (turn.createdId?.all (fun id => decide (id ∉ records.map CheckRecord.id)) = true ∧
      turn.updatedId?.all (fun id => decide (id ∈ records.map CheckRecord.id)) = true)
    (by simp only [Option.all_eq_true, decide_eq_true_eq]
        exact ⟨fun both => ⟨both.1, both.2⟩, fun allows => ⟨allows.created, allows.updated⟩⟩)

instance decidableKeeps : (records : List CheckRecord) → (turns : List CallTurn) →
    Decidable (Keeps records turns)
  | _, [] => inferInstanceAs (Decidable True)
  | records, turn :: rest =>
    have := decidableKeeps (afterTurn records turn) rest
    inferInstanceAs (Decidable (_ ∧ _))

variable {records : List CheckRecord} {turn : CallTurn} {turns : List CallTurn} {record : CheckRecord}

theorem keeps_append {earlier later : List CallTurn} :
    Keeps records (earlier ++ later) ↔
      Keeps records earlier ∧ Keeps (afterTurns records earlier) later := by
  induction earlier generalizing records with
  | nil => simp [Keeps, afterTurns]
  | cons turn rest ih =>
    simp only [List.cons_append, Keeps, ih, and_assoc, afterTurns, List.foldl_cons]

/-- The identifiers of records do not change, and a creation adds one. -/
theorem map_id_afterTurn (records : List CheckRecord) (turn : CallTurn) :
    (afterTurn records turn).map CheckRecord.id =
      records.map CheckRecord.id ++ turn.createdId?.toList := by
  unfold afterTurn
  split
  · rw [List.map_append]
    rfl
  · rw [List.map_map]
    change _ = _ ++ []
    rw [List.append_nil]
    refine List.map_congr_left fun record _ => ?_
    dsimp only [Function.comp_apply]
    split <;> rfl
  · rename_i uncreated _
    have none : turn.createdId? = none := by
      unfold Turn.createdId?
      split
      · exact absurd rfl (uncreated _ _ _)
      · rfl
    rw [none, Option.toList_none, List.append_nil]

/-- Records keep identifiers of their own. -/
theorem nodup_afterTurns (keeps : Keeps records turns)
    (unique : (records.map CheckRecord.id).Nodup) :
    ((afterTurns records turns).map CheckRecord.id).Nodup := by
  induction turns generalizing records with
  | nil => exact unique
  | cons turn rest ih =>
    obtain ⟨allows, keeps⟩ := keeps
    refine ih keeps ?_
    rw [map_id_afterTurn]
    cases created : turn.createdId? with
    | none => simpa using unique
    | some id =>
      exact unique.append (List.nodup_singleton id)
        (List.disjoint_singleton.2 (allows.created id created))

/-- A record stays as it is unless its check is updated. -/
theorem mem_afterTurn (member : record ∈ records) (other : turn.updatedId? ≠ some record.id) :
    record ∈ afterTurn records turn := by
  unfold afterTurn
  split
  · exact List.mem_append_left _ member
  · rename_i id _ _
    have differs : record.id ≠ id := fun same => other (same ▸ rfl)
    exact List.mem_map.2 ⟨record, member, if_neg differs⟩
  · exact member

theorem mem_afterTurns (member : record ∈ records)
    (others : ∀ turn ∈ turns, turn.updatedId? ≠ some record.id) :
    record ∈ afterTurns records turns := by
  induction turns generalizing records with
  | nil => exact member
  | cons turn rest ih =>
    obtain ⟨other, others⟩ := List.forall_mem_cons.1 others
    exact ih (mem_afterTurn member other) others

/-- What a call leaves of a record is there after further calls, unless they update its check. -/
theorem mem_afterTurns_cons {before after : List CallTurn}
    (member : record ∈ afterTurn (afterTurns records before) turn)
    (others : ∀ later ∈ after, later.updatedId? ≠ some record.id) :
    record ∈ afterTurns records (before ++ turn :: after) := by
  rw [afterTurns, List.foldl_append, List.foldl_cons]
  exact mem_afterTurns member others

/-- A check that is created has a record that shows its external identifier and no words. -/
theorem mem_afterTurn_of_create {event : Event} {check : NewCheck} {id : UInt64} :
    ⟨id, some check.externalId, none, none⟩ ∈ afterTurn records ⟨.create event check, .ok id⟩ := by
  rw [← CheckRecord.created_createBody id check]
  exact List.mem_append_right _ List.mem_cons_self

/-- A check that is updated has a record that shows the words of the update. -/
theorem mem_afterTurn_of_update {event : Event} {contents : CheckUpdate} {id : UInt64} {name : String}
    (allows : Allows records ⟨.update event id contents, .ok ()⟩)
    (named : contents.externalId = some name) :
    ⟨id, some name, some contents.output.title, some contents.output.summary⟩ ∈
      afterTurn records ⟨.update event id contents, .ok ()⟩ := by
  obtain ⟨record, member, rfl⟩ := List.mem_map.1 (allows.updated id rfl)
  refine List.mem_map.2 ⟨record, member, ?_⟩
  rw [if_pos rfl, CheckRecord.updated_updateBody, named]
  rfl

end Register

/-! ## Reading records off pages -/

/-- Whether checks were read off pages that show records of these. -/
inductive ReadFrom (records : List CheckRecord) : List ExistingCheck → Prop
  | nil : ReadFrom records []
  | page {total : UInt64} {shown : List CheckRecord} {document : Value} {page : Page}
      {others : List ExistingCheck} (among : shown ⊆ records)
      (shows : PageShows total shown document) (reads : Page.decode .json document = .ok page)
      (rest : ReadFrom records others) : ReadFrom records (page.checks ++ others)

/-- Whether a check is there, and is read as such off every page that shows records of these. -/
structure ShowsAs (records : List CheckRecord) (check : ExistingCheck) : Prop where
  present : check.id ∈ records.map CheckRecord.id
  reads : ∀ total shown document, shown ⊆ records → PageShows total shown document →
    ∃ page, Page.decode .json document = .ok page ∧
      (check.id ∈ shown.map CheckRecord.id → check ∈ page.checks) ∧
      ∀ other ∈ page.checks, other.id = check.id → other = check

section
variable {records : List CheckRecord} {listing : List ExistingCheck} {check : ExistingCheck}

/-- What is read is what the records show. -/
theorem ReadFrom.exists_record (read : ReadFrom records listing) (member : check ∈ listing) :
    ∃ record ∈ records, record.listed = check := by
  induction read with
  | nil => exact nomatch member
  | page among shows reads rest ih =>
    rcases List.mem_append.1 member with here | later
    · obtain rfl := Except.ok.inj (reads.symm.trans shows.decode)
      obtain ⟨record, present, same⟩ := List.mem_map.1 here
      exact ⟨record, among present, same⟩
    · exact ih later

/-- Since identifiers are not shared, the record of a check is the only one that is read as such. -/
theorem showsAs_of_mem (unique : (records.map CheckRecord.id).Nodup) {record : CheckRecord}
    (member : record ∈ records) : ShowsAs records record.listed where
  present := List.mem_map.2 ⟨record, member, rfl⟩
  reads total shown document among shows := by
    refine ⟨_, shows.decode, fun present => ?_, fun other listed same => ?_⟩
    · obtain ⟨found, here, same⟩ := List.mem_map.1 present
      obtain rfl := List.inj_on_of_nodup_map unique (among here) member same
      exact List.mem_map_of_mem here
    · obtain ⟨found, here, rfl⟩ := List.mem_map.1 listed
      rw [List.inj_on_of_nodup_map unique (among here) member same]

end

/-! ## What the client sends and reads -/

section
variable {client : Client} {event : Event} {turns : List RequestTurn} {records : List CheckRecord}

/-- All that is sent to create a check is the body for it. -/
theorem Client.asks_createBody {check : NewCheck} {result : Except Failure UInt64}
    (admits : (client.create event check).Admits turns result) :
    ∀ turn ∈ turns, turn.question.method = .post ∧ turn.question.body = some (createBody check) := by
  have wrote := @wrote_of_perform turns client _ (.create event check) rfl _ rfl _ admits
  intro turn member
  obtain ⟨address, -, same⟩ := wrote.question turn member
  exact ⟨congrArg Request.method same, congrArg Request.body same⟩

/-- All that is sent to update a check is the body for its contents. -/
theorem Client.asks_updateBody {id : UInt64} {contents : CheckUpdate} {result : Except Failure Unit}
    (admits : (client.update event id contents).Admits turns result) :
    ∀ turn ∈ turns, turn.question.method = .patch ∧
      turn.question.body = some (updateBody contents) := by
  have wrote := wrote_of_update rfl admits
  intro turn member
  obtain ⟨address, -, same⟩ := wrote.question turn member
  exact ⟨congrArg Request.method same, congrArg Request.body same⟩

/-- Whether all documents that come back are pages which show records of these. -/
def ShownIn (records : List CheckRecord) (turns : List RequestTurn) : Prop :=
  ∀ turn ∈ turns, ∀ response document, turn.answer = some response →
    response.document = some document →
    ∃ total shown, shown ⊆ records ∧ PageShows total shown document

theorem ReadFrom.append {listing others : List ExistingCheck} (first : ReadFrom records listing)
    (second : ReadFrom records others) : ReadFrom records (listing ++ others) := by
  induction first with
  | nil => exact second
  | page among shows reads rest ih =>
    rw [List.append_assoc]
    exact .page among shows reads ih

/-- The client adds one page after the other to what it has read. -/
theorem ReadFrom.of_listFrom {applicationId : Option UInt64} {listed checks : List ExistingCheck}
    {page : Nat} {asked : List RequestTurn}
    (admits : (client.listFrom event applicationId listed page).Admits asked (.ok checks))
    (shown : ShownIn records asked) (before : ReadFrom records listed) : ReadFrom records checks := by
  rw [Client.listFrom] at admits
  obtain ⟨first, middle, rest, rfl, sent, admits⟩ := Dialogue.admits_andThen.1 admits
  cases middle with
  | error => exact nomatch admits.2
  | ok reply =>
    have read : ReadFrom records (listed ++ reply.checks) := by
      obtain ⟨turn, member, answers⟩ := (exchanged_of_admits sent).exists_delivery
      obtain ⟨response, document, delivered, held, decodes⟩ := readDelivery_eq_ok answers.symm
      obtain ⟨total, records', among, shows⟩ :=
        shown turn (List.mem_append_left _ member) response document delivered held
      refine before.append ?_
      have last := ReadFrom.page among shows decodes .nil
      rwa [List.append_nil] at last
    dsimp only at admits
    split at admits
    · obtain ⟨-, same⟩ := admits
      rwa [Except.ok.inj same]
    · exact ReadFrom.of_listFrom admits
        (fun turn member => shown turn (List.mem_append_right _ member)) read
termination_by UInt64.size - listed.length
decreasing_by
  rename_i goesOn
  obtain ⟨full, below⟩ := reply.of_not_isLast goesOn
  rw [List.length_append] at below ⊢
  unfold Page.size at full
  omega

/-- What the client lists is read off the pages that come back. -/
theorem Client.readFrom_of_list {applicationId : Option UInt64} {checks : List ExistingCheck}
    (admits : (client.list event applicationId).Admits turns (.ok checks))
    (shown : ShownIn records turns) : ReadFrom records checks := by
  obtain ⟨first, middle, rest, rfl, sent, admits⟩ := Dialogue.admits_andThen.1 admits
  cases middle with
  | error => exact nomatch admits.2
  | ok listing =>
    obtain ⟨-, same⟩ := admits
    obtain rfl := Except.ok.inj same
    exact .of_listFrom sent (fun turn member => shown turn (List.mem_append_left _ member)) .nil

end
end GitHub
end CommitChecks

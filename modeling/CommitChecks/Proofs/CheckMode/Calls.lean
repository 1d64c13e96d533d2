import CommitChecks.Proofs.CheckMode.Courses

/-!
# The calls of a report through checks

What all ways of a report have in common, by cases over these ways: the order of its calls, the one
check that it carries and where that came from, what it writes to checks and to the run, and when it
succeeds.
-/

namespace CommitChecks.CheckMode

variable {now : Timestamp} {event : Event} {options : Options} {request : StatusRequest}
variable {slot : SkipSlot} {id : UInt64} {turns : List CallTurn} {ended : Report CheckHandle}

theorem nonEmpty?_eq_some {text held : String} (some : nonEmpty? text = some held) : held = text := by
  unfold nonEmpty? at some
  split at some
  · contradiction
  · exact (Option.some.inj some).symm

theorem Reported.of_unreadable (reported : Reported now event options request slot turns ended)
    {failure : Failure} (unreadable : storedId request = .error failure) :
    turns = [] ∧ ended = ⟨.error failure, slot⟩ := by
  have admits := report_admits_iff.2 reported
  unfold report at admits
  rw [unreadable] at admits
  exact admits

/-- The report of a run with a check is nothing but the update of that check. -/
theorem Reported.updated (reported : Reported now event options request slot turns ended)
    (known : storedId request = .ok (some id)) :
    ended.slot = slot ∧ Updated now event options request id turns ended.result := by
  have admits := report_admits_iff.2 reported
  unfold report at admits
  rw [known] at admits
  exact submit_admits_iff.1 admits

variable {result : Except Failure CheckHandle}

theorem Updated.kinds (updated : Updated now event options request id turns result) :
    (turns.map fun turn => turn.question.kind).Sublist [.logs, .update] := by
  cases updated with
  | plain => exact .cons _ (.refl _)
  | searched => exact .refl _

theorem Stored.kinds (stored : Stored now event options request id turns result) :
    (turns.map fun turn => turn.question.kind).Sublist [.patch, .logs, .update] := by
  cases stored with
  | runless _ updated => exact .cons _ updated.kinds
  | unpatched => exact .cons_cons _ (List.nil_sublist _)
  | patched _ updated => exact .cons_cons _ updated.kinds

theorem Found.kinds {after : SkipSlot}
    (found : Found now event options request slot turns id after) :
    (turns.map fun turn => turn.question.kind).Sublist [.list, .create] := by
  cases found with
  | chosen => exact .cons_cons _ (List.nil_sublist _)
  | created => exact .refl _

/-- A report makes every kind of call at most once, and in one order. -/
theorem Reported.kinds (reported : Reported now event options request slot turns ended) :
    (turns.map fun turn => turn.question.kind).Sublist
      [.list, .create, .patch, .logs, .update] := by
  cases reported with
  | unreadable => exact List.nil_sublist _
  | labelled _ updated => exact .cons _ (.cons _ (.cons _ updated.kinds))
  | unlisted => exact .cons_cons _ (List.nil_sublist _)
  | uncreated => exact .cons_cons _ (.cons_cons _ (List.nil_sublist _))
  | found _ found stored =>
    rw [List.map_append]
    exact found.kinds.append stored.kinds

theorem Updated.carriesOnly (updated : Updated now event options request id turns result) :
    CarriesOnly id turns := by
  cases updated <;> simp [CarriesOnly, Call.checkId?, Call.kind]

theorem Stored.carriesOnly (stored : Stored now event options request id turns result) :
    CarriesOnly id turns := by
  cases stored with
  | runless _ updated => exact updated.carriesOnly
  | unpatched => simp [CarriesOnly, Call.checkId?]
  | patched _ updated => exact List.forall_mem_cons.2 ⟨by simp [Call.checkId?], updated.carriesOnly⟩

/-- Once it has found its check, a report stores and updates no other. -/
theorem Found.carriesOnly {search : List CallTurn} {after : SkipSlot}
    (found : Found now event options request slot search id after)
    (stored : Stored now event options request id turns result) :
    CarriesOnly id (search ++ turns) := by
  refine .append (.of_kinds ?_) stored.carriesOnly
  cases found <;> simp [Call.kind]

/-- A report that knows its check patches no run but its own, with the identifier of that check. -/
theorem Stored.of_patch (stored : Stored now event options request id turns result)
    {turn : CallTurn} (member : turn ∈ turns) {run : Run} {patch : MetadataPatch}
    (asks : turn.question = .patch run patch) :
    request.run = some run ∧ patch = .forCheck id request.detailsUrl := by
  have unpatched : ∀ {turns}, Updated now event options request id turns result → turn ∉ turns :=
    fun updated => Turn.not_mem_of_kinds updated.kinds (by simp [asks, Call.kind])
  cases stored with
  | runless _ updated => exact absurd member (unpatched updated)
  | unpatched some =>
    obtain rfl := List.mem_singleton.1 member
    cases asks
    exact ⟨some, rfl⟩
  | patched some updated =>
    rcases List.mem_cons.1 member with rfl | later
    · cases asks
      exact ⟨some, rfl⟩
    · exact absurd later (unpatched updated)

/-- A report that knows its check creates none. -/
theorem Stored.createdId?_eq_none (stored : Stored now event options request id turns result)
    {turn : CallTurn} (member : turn ∈ turns) : turn.createdId? = none := by
  refine Option.eq_none_iff_forall_ne_some.2 fun created creates => ?_
  have kind := Turn.kind_of_createdId? creates
  exact Turn.not_mem_of_kinds stored.kinds (by simp [kind]) member

/-- Whether a check is the one that was created by the calls, or else one that was listed. -/
structure Provided (id : UInt64) (turns : List CallTurn) : Prop where
  known : ∃ turn ∈ turns, turn.createdId? = some id ∨ ∃ check ∈ turn.listed, check.id = id
  created : ∀ turn ∈ turns, ∀ other, turn.createdId? = some other → other = id

theorem Found.provided {search : List CallTurn} {after : SkipSlot}
    (found : Found now event options request slot search id after)
    (stored : Stored now event options request id turns result) :
    Provided id (search ++ turns) where
  known := by
    cases found with
    | chosen choice =>
      obtain ⟨check, present, same, -⟩ := choose_eq_some choice
      exact ⟨_, List.mem_cons_self, .inr ⟨check, present, same⟩⟩
    | created => exact ⟨_, List.mem_cons_of_mem _ List.mem_cons_self, .inl rfl⟩
  created := by
    intro turn member other creates
    rcases List.mem_append.1 member with searching | later
    · cases found <;> simp at searching
      · rw [searching] at creates
        exact nomatch creates
      · obtain rfl | rfl := searching
        · exact nomatch creates
        · exact (Option.some.inj creates).symm
    · rw [stored.createdId?_eq_none later] at creates
      exact nomatch creates

/-- A report that patches a run was given that run without a label, and puts the check on it that it
found. -/
theorem Reported.of_patch (reported : Reported now event options request slot turns ended)
    {turn : CallTurn} (member : turn ∈ turns) {run : Run} {patch : MetadataPatch}
    (asks : turn.question = .patch run patch) :
    request.run = some run ∧ run.checkIdText = none ∧
      ∃ id, patch = .forCheck id request.detailsUrl ∧ CarriesOnly id turns ∧ Provided id turns := by
  have kind : turn.question.kind = .patch := by rw [asks]; rfl
  cases reported with
  | unreadable => exact nomatch member
  | labelled _ updated => exact absurd member (Turn.not_mem_of_kinds updated.kinds (by simp [kind]))
  | unlisted =>
    obtain rfl := List.mem_singleton.1 member
    exact nomatch kind
  | uncreated =>
    obtain rfl | rfl := by simpa using member
    · exact nomatch kind
    · exact nomatch kind
  | @found id _ search rest _ label found stored =>
    have searched : turn ∉ search := Turn.not_mem_of_kinds found.kinds (by simp [kind])
    have later := (List.mem_append.1 member).resolve_left searched
    obtain ⟨present, same⟩ := stored.of_patch later asks
    have unlabelled := storedId_eq_none_iff.1 label
    rw [present, Option.bind_some] at unlabelled
    exact ⟨present, unlabelled, id, same, found.carriesOnly stored, found.provided stored⟩

theorem Updated.externalId?_eq (updated : Updated now event options request id turns result) :
    ∀ turn ∈ turns, ∀ name, turn.question.externalId? = some name → name = request.runName := by
  cases updated with
  | plain => simpa [Call.externalId?, update] using fun _ => nonEmpty?_eq_some
  | searched => simpa [Call.externalId?, update] using fun _ => nonEmpty?_eq_some

theorem Stored.externalId?_eq (stored : Stored now event options request id turns result) :
    ∀ turn ∈ turns, ∀ name, turn.question.externalId? = some name → name = request.runName := by
  cases stored with
  | runless _ updated => exact updated.externalId?_eq
  | unpatched => simp [Call.externalId?]
  | patched _ updated =>
    exact List.forall_mem_cons.2 ⟨by simp [Call.externalId?], updated.externalId?_eq⟩

/-- The only external identifier that a report gives a check is the name of its run. -/
theorem Reported.externalId?_eq (reported : Reported now event options request slot turns ended) :
    ∀ turn ∈ turns, ∀ name, turn.question.externalId? = some name → name = request.runName := by
  cases reported with
  | unreadable => simp
  | labelled _ updated => exact updated.externalId?_eq
  | unlisted => simp [Call.externalId?]
  | uncreated => simp [Call.externalId?, newCheck, eq_comm]
  | found _ found stored =>
    refine List.forall_mem_append.2 ⟨?_, stored.externalId?_eq⟩
    cases found <;> simp [Call.externalId?, newCheck, eq_comm]

/-- A report lists checks, if at all, before it does anything else. -/
theorem Reported.head?_of_listed (reported : Reported now event options request slot turns ended)
    {turn : CallTurn} (member : turn ∈ turns) {check : ExistingCheck}
    (present : check ∈ turn.listed) : turns.head? = some turn := by
  have kind := Turn.kind_of_mem_listed present
  have unlisted : ∀ {others : List CallTurn},
      (others.map fun turn => turn.question.kind).Sublist [.create, .patch, .logs, .update] →
        turn ∉ others := fun kinds => Turn.not_mem_of_kinds kinds (by simp [kind])
  cases turns with
  | nil => exact nomatch member
  | cons head rest =>
    obtain others | ⟨kinds, same, others⟩ := List.sublist_cons_iff.1 reported.kinds
    · exact absurd member (unlisted others)
    · obtain ⟨-, rfl⟩ := List.cons.inj same
      rw [(List.mem_cons.1 member).resolve_right (unlisted others), List.head?_cons]

/-- How a report came to the check that it carries. -/
inductive Origin (request : StatusRequest) (slot after : SkipSlot) (turns : List CallTurn)
    (id : UInt64) : Prop
  | label (stored : request.run.bind Run.checkId? = some id)
  | creation {turn : CallTurn} (member : turn ∈ turns) (created : turn.createdId? = some id)
  | name {turn : CallTurn} {check : ExistingCheck} (member : turn ∈ turns)
      (listed : check ∈ turn.listed) (same : check.id = id)
      (named : check.externalId = some request.runName)
  | claim (empty : slot = .empty) (filled : after = ⟨some id⟩)

/-- Every check that a report carries has one of the four origins. -/
theorem Reported.origin (reported : Reported now event options request slot turns ended)
    {turn : CallTurn} (member : turn ∈ turns) {carried : UInt64}
    (carries : turn.question.checkId? = some carried) :
    Origin request slot ended.slot turns carried := by
  cases reported with
  | unreadable => exact nomatch member
  | labelled label updated =>
    obtain rfl := updated.carriesOnly.eq member carries
    exact .label (storedId_eq_some_iff.1 label)
  | unlisted =>
    obtain rfl := List.mem_singleton.1 member
    exact nomatch carries
  | uncreated =>
    obtain rfl | rfl := by simpa using member
    · exact nomatch carries
    · exact nomatch carries
  | found _ found stored =>
    obtain rfl := (found.carriesOnly stored).eq member carries
    cases found with
    | chosen choice =>
      obtain ⟨check, present, same, ⟨named, -⟩ | ⟨empty, -, filled⟩⟩ := choose_eq_some choice
      · exact .name List.mem_cons_self present same named
      · exact .claim empty filled
    | created => exact .creation (List.mem_cons_of_mem _ List.mem_cons_self) rfl

/-- A report that changes the skip slot found it empty, searched for a check, and took over a listed
check of a skipped run, which it carried from then on. -/
theorem Reported.of_slot_ne (reported : Reported now event options request slot turns ended)
    (changed : ended.slot ≠ slot) :
    slot = .empty ∧ storedId request = .ok none ∧
      ∃ (checks : List ExistingCheck) (check : ExistingCheck) (rest : List CallTurn),
        turns = ⟨.list event options.applicationId, .ok checks⟩ :: rest ∧
        check ∈ checks ∧ check.isSkipped = true ∧ ended.slot = ⟨some check.id⟩ ∧
          Stored now event options request check.id rest ended.result := by
  cases reported with
  | unreadable => exact absurd rfl changed
  | labelled => exact absurd rfl changed
  | unlisted => exact absurd rfl changed
  | uncreated => exact absurd rfl changed
  | found label found stored =>
    cases found with
    | @chosen checks _ _ _ choice =>
      obtain ⟨check, present, rfl, ⟨-, same⟩ | ⟨empty, skipped, filled⟩⟩ := choose_eq_some choice
      · exact absurd same changed
      · exact ⟨empty, label, checks, check, _, rfl, present, skipped, filled, stored⟩
    | created => exact absurd rfl changed

theorem Updated.ok_iff (updated : Updated now event options request id turns result)
    {closed : CheckHandle} :
    result = .ok closed ↔ closed = handle request id ∧
      ∃ turn ∈ turns, turn.question.kind = .update ∧ turn.failure? = none := by
  cases updated with
  | plain _ reply => cases reply <;> simp [Except.map, Call.kind, Turn.failure?, eq_comm]
  | searched _ _ reply => cases reply <;> simp [Except.map, Call.kind, Turn.failure?, eq_comm]

theorem Stored.ok_iff (stored : Stored now event options request id turns result)
    {closed : CheckHandle} :
    result = .ok closed ↔ closed = handle request id ∧
      ∃ turn ∈ turns, turn.question.kind = .update ∧ turn.failure? = none := by
  cases stored with
  | runless _ updated => exact updated.ok_iff
  | unpatched => simp [Call.kind]
  | patched _ updated => simp [updated.ok_iff, Call.kind]

/-- A report succeeds exactly when it gets to update its check and the update succeeds. -/
theorem Reported.ok_iff (reported : Reported now event options request slot turns ended) :
    (∃ closed, ended.result = .ok closed) ↔
      ∃ turn ∈ turns, turn.question.kind = .update ∧ turn.failure? = none := by
  cases reported with
  | unreadable => simp
  | labelled _ updated => simp [updated.ok_iff]
  | unlisted => simp [Call.kind]
  | uncreated => simp [Call.kind]
  | found _ found stored => cases found <;> simp [stored.ok_iff, Call.kind]

end CommitChecks.CheckMode

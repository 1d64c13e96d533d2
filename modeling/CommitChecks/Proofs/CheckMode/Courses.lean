import CommitChecks.Proofs.CallTurn
import CommitChecks.Proofs.CheckMode.Choice

/-!
# How a report through checks can go

`Reported` lists every way in which a report through checks can go, whoever replies: which calls it
makes, which replies they get, how it ends and what it leaves in the skip slot. It is put together
from the ways in which the check can be updated and in which its identifier can be stored.
`report_admits_iff` says that the list is exact.
-/

namespace CommitChecks.CheckMode

/-! ## What the label says -/

theorem storedId_eq_error_iff {request : StatusRequest} {failure : Failure} :
    storedId request = .error failure ↔
      ∃ text, request.run.bind Run.checkIdText = some text ∧
        Decimal.readUInt64 text.toList = none ∧ failure = .unreadableCheckId text := by
  unfold storedId
  cases label : request.run.bind Run.checkIdText with
  | none => simp
  | some text => cases read : Decimal.readUInt64 text.toList <;> simp [read, eq_comm]

theorem storedId_eq_none_iff {request : StatusRequest} :
    storedId request = .ok none ↔ request.run.bind Run.checkIdText = none := by
  unfold storedId
  cases label : request.run.bind Run.checkIdText with
  | none => simp
  | some text => cases read : Decimal.readUInt64 text.toList <;> simp [read]

theorem storedId_eq_some_iff {request : StatusRequest} {id : UInt64} :
    storedId request = .ok (some id) ↔ request.run.bind Run.checkId? = some id := by
  have read : request.run.bind Run.checkId? =
      (request.run.bind Run.checkIdText).bind fun text => Decimal.readUInt64 text.toList := by
    rw [Option.bind_assoc]; rfl
  rw [read, storedId]
  cases label : request.run.bind Run.checkIdText with
  | none => simp
  | some text => cases read : Decimal.readUInt64 text.toList <;> simp [read]

/-! ## The ways of a report -/

variable (now : Timestamp) (event : Event) (options : Options) (request : StatusRequest)

/-- The annotations that a reply of the log source gives. Logs that cannot be read give none. -/
def annotationsOf (options : Options) : Except Failure (List TaskLog) → List Diagnostic
  | .ok logs => (Extractor.extractWith options.errorPattern logs).annotations
  | .error _ => []

/-- The handle that is returned once a check was updated. -/
def handle (request : StatusRequest) (id : UInt64) : CheckHandle :=
  ⟨id, request.runName⟩

/-- How the update of a check can go. -/
inductive Updated (id : UInt64) : List CallTurn → Except Failure CheckHandle → Prop
  | plain (unread : runWithLogs? options request = none) (reply : Except Failure Unit) :
      Updated id [⟨.update event id (update now options request []), reply⟩]
        (reply.map fun _ => handle request id)
  | searched {run : Run} (read : runWithLogs? options request = some run)
      (logs : Except Failure (List TaskLog)) (reply : Except Failure Unit) :
      Updated id
        [⟨.logs run options.maxLogLines, logs⟩,
          ⟨.update event id (update now options request (annotationsOf options logs)), reply⟩]
        (reply.map fun _ => handle request id)

/-- How storing the identifier of a check, and then updating it, can go. -/
inductive Stored (id : UInt64) : List CallTurn → Except Failure CheckHandle → Prop
  | runless {turns : List CallTurn} {result : Except Failure CheckHandle}
      (none : request.run = none) (updated : Updated now event options request id turns result) :
      Stored id turns result
  | unpatched {run : Run} (some : request.run = some run) (failure : Failure) :
      Stored id [⟨.patch run (.forCheck id request.detailsUrl), .error failure⟩] (.error failure)
  | patched {run : Run} {turns : List CallTurn} {result : Except Failure CheckHandle}
      (some : request.run = some run)
      (updated : Updated now event options request id turns result) :
      Stored id (⟨.patch run (.forCheck id request.detailsUrl), .ok ()⟩ :: turns) result

/-- How the check of a run without a label can be found: among the listed ones, or by creating it. -/
inductive Found (slot : SkipSlot) : List CallTurn → UInt64 → SkipSlot → Prop
  | chosen {checks : List ExistingCheck} {id : UInt64} {reason : Reason} {after : SkipSlot}
      (choice : choose request.runName slot checks = (some (id, reason), after)) :
      Found slot [⟨.list event options.applicationId, .ok checks⟩] id after
  | created {checks : List ExistingCheck} {id : UInt64}
      (choice : choose request.runName slot checks = (none, slot)) :
      Found slot
        [⟨.list event options.applicationId, .ok checks⟩,
          ⟨.create event (newCheck now event options request), .ok id⟩]
        id slot

/-- How a report through checks can go. -/
inductive Reported (slot : SkipSlot) : List CallTurn → Report CheckHandle → Prop
  | unreadable {failure : Failure} (label : storedId request = .error failure) :
      Reported slot [] ⟨.error failure, slot⟩
  | labelled {id : UInt64} {turns : List CallTurn} {result : Except Failure CheckHandle}
      (label : storedId request = .ok (some id))
      (updated : Updated now event options request id turns result) :
      Reported slot turns ⟨result, slot⟩
  | unlisted (label : storedId request = .ok none) (failure : Failure) :
      Reported slot [⟨.list event options.applicationId, .error failure⟩] ⟨.error failure, slot⟩
  | uncreated {checks : List ExistingCheck} (label : storedId request = .ok none)
      (choice : choose request.runName slot checks = (none, slot)) (failure : Failure) :
      Reported slot
        [⟨.list event options.applicationId, .ok checks⟩,
          ⟨.create event (newCheck now event options request), .error failure⟩]
        ⟨.error failure, slot⟩
  | found {id : UInt64} {after : SkipSlot} {search turns : List CallTurn}
      {result : Except Failure CheckHandle} (label : storedId request = .ok none)
      (found : Found now event options request slot search id after)
      (stored : Stored now event options request id turns result) :
      Reported slot (search ++ turns) ⟨result, after⟩

/-! ## The list is exact -/

variable {now event options request}
variable {slot : SkipSlot} {id : UInt64} {turns : List CallTurn} {ended : Report CheckHandle}

theorem withAnnotations_admits_iff {Result : Type} {next : List Diagnostic → Conversation Result}
    {result : Result} :
    (withAnnotations options request next).Admits turns result ↔
      (runWithLogs? options request = none ∧ (next []).Admits turns result) ∨
        ∃ run logs rest, runWithLogs? options request = some run ∧
          turns = ⟨.logs run options.maxLogLines, logs⟩ :: rest ∧
            (next (annotationsOf options logs)).Admits rest result := by
  unfold withAnnotations
  cases read : runWithLogs? options request with
  | none =>
    constructor
    · exact fun admits => .inl ⟨rfl, admits⟩
    · rintro (⟨-, admits⟩ | ⟨_, _, _, some, -⟩)
      · exact admits
      · contradiction
  | some run =>
    constructor
    · rintro ⟨logs, rest, rfl, admits⟩
      refine .inr ⟨run, logs, rest, rfl, rfl, ?_⟩
      cases logs with
      | ok logs => exact (Dialogue.admits_noteAll _ _ _ _).1 admits
      | error failure => exact admits
    · rintro (⟨none, -⟩ | ⟨reader, logs, rest, same, rfl, admits⟩)
      · contradiction
      · obtain rfl := Option.some.inj same
        refine ⟨logs, rest, rfl, ?_⟩
        cases logs with
        | ok logs => exact (Dialogue.admits_noteAll _ _ _ _).2 admits
        | error failure => exact admits

/-- What the closing call of a report admits, once the annotations are known. -/
private theorem closing_admits_iff (annotations : List Diagnostic) :
    (Dialogue.ask (.update event id (update now options request annotations)) fun
      | .ok () => .done ⟨.ok ⟨id, request.runName⟩, slot⟩
      | .error failure => .done ⟨.error failure, slot⟩ :
        Conversation (Report CheckHandle)).Admits turns ended ↔
      ∃ reply : Except Failure Unit,
        turns = [⟨.update event id (update now options request annotations), reply⟩] ∧
          ended = ⟨reply.map fun _ => handle request id, slot⟩ := by
  constructor
  · rintro ⟨reply, rest, rfl, admits⟩
    cases reply <;> obtain ⟨rfl, rfl⟩ := admits <;> exact ⟨_, rfl, rfl⟩
  · rintro ⟨reply, rfl, rfl⟩
    cases reply <;> exact ⟨_, _, rfl, rfl, rfl⟩

theorem submit_admits_iff :
    (submit now event options request slot id).Admits turns ended ↔
      ended.slot = slot ∧ Updated now event options request id turns ended.result := by
  rw [submit, withAnnotations_admits_iff]
  constructor
  · rintro (⟨unread, admits⟩ | ⟨run, logs, rest, read, rfl, admits⟩)
    · obtain ⟨reply, rfl, rfl⟩ := (closing_admits_iff _).1 admits
      exact ⟨rfl, .plain unread reply⟩
    · obtain ⟨reply, rfl, rfl⟩ := (closing_admits_iff _).1 admits
      exact ⟨rfl, .searched read logs reply⟩
  · obtain ⟨result, after⟩ := ended
    rintro ⟨rfl, updated⟩
    cases updated with
    | plain unread reply => exact .inl ⟨unread, (closing_admits_iff _).2 ⟨reply, rfl, rfl⟩⟩
    | searched read logs reply =>
      exact .inr ⟨_, logs, _, read, rfl, (closing_admits_iff _).2 ⟨reply, rfl, rfl⟩⟩

theorem store_admits_iff :
    (store now event options request slot id).Admits turns ended ↔
      ended.slot = slot ∧ Stored now event options request id turns ended.result := by
  obtain ⟨result, after⟩ := ended
  unfold store
  cases owner : request.run with
  | none =>
    refine submit_admits_iff.trans (and_congr_right fun _ => ⟨.runless owner, fun stored => ?_⟩)
    cases stored with
    | runless _ updated => exact updated
    | unpatched some => rw [owner] at some; contradiction
    | patched some => rw [owner] at some; contradiction
  | some run =>
    constructor
    · rintro ⟨reply, rest, rfl, admits⟩
      cases reply with
      | ok =>
        obtain ⟨same, updated⟩ := submit_admits_iff.1 admits
        exact ⟨same, .patched owner updated⟩
      | error failure =>
        obtain ⟨rfl, ⟨⟩⟩ := admits
        exact ⟨rfl, .unpatched owner failure⟩
    · rintro ⟨rfl, stored⟩
      cases stored with
      | runless none => rw [owner] at none; contradiction
      | unpatched some failure =>
        obtain rfl := Option.some.inj (owner.symm.trans some)
        exact ⟨.error failure, _, rfl, rfl, rfl⟩
      | patched some updated =>
        obtain rfl := Option.some.inj (owner.symm.trans some)
        exact ⟨.ok (), _, rfl, submit_admits_iff.2 ⟨rfl, updated⟩⟩

theorem create_admits_iff :
    (create now event options request slot).Admits turns ended ↔
      (∃ failure, turns = [⟨.create event (newCheck now event options request), .error failure⟩] ∧
        ended = ⟨.error failure, slot⟩) ∨
      ∃ id rest, turns = ⟨.create event (newCheck now event options request), .ok id⟩ :: rest ∧
        ended.slot = slot ∧ Stored now event options request id rest ended.result := by
  constructor
  · rintro ⟨reply, rest, rfl, admits⟩
    cases reply with
    | ok id => exact .inr ⟨id, rest, rfl, store_admits_iff.1 admits⟩
    | error failure =>
      obtain ⟨rfl, rfl⟩ := admits
      exact .inl ⟨failure, rfl, rfl⟩
  · rintro (⟨failure, rfl, rfl⟩ | ⟨id, rest, rfl, stored⟩)
    · exact ⟨.error failure, _, rfl, rfl, rfl⟩
    · exact ⟨.ok id, rest, rfl, store_admits_iff.2 stored⟩

private theorem reported_of_discover_admits (label : storedId request = .ok none)
    (admits : (discover now event options request slot).Admits turns ended) :
    Reported now event options request slot turns ended := by
  obtain ⟨result, after⟩ := ended
  obtain ⟨reply, rest, rfl, admits⟩ := admits
  cases reply with
  | error failure =>
    obtain ⟨rfl, ⟨⟩⟩ := admits
    exact .unlisted label failure
  | ok checks =>
    dsimp only at admits
    split at admits
    · rename_i id reason found choice
      obtain ⟨rfl, stored⟩ := store_admits_iff.1 admits
      exact .found label (.chosen choice) stored
    · rename_i kept choice
      obtain ⟨rfl, -⟩ := choose_eq_none_iff.1 choice
      obtain ⟨failure, rfl, ⟨⟩⟩ | ⟨id, rest, rfl, rfl, stored⟩ := create_admits_iff.1 admits
      · exact .uncreated label choice failure
      · exact .found label (.created choice) stored

/-- The listed ways are exactly the ways in which a report through checks can go. -/
theorem report_admits_iff :
    (report now event options request slot).Admits turns ended ↔
      Reported now event options request slot turns ended := by
  constructor
  · obtain ⟨result, after⟩ := ended
    intro admits
    unfold report at admits
    split at admits
    · rename_i label
      obtain ⟨rfl, ⟨⟩⟩ := admits
      exact .unreadable label
    · rename_i id label
      obtain ⟨rfl, updated⟩ := submit_admits_iff.1 admits
      exact .labelled label updated
    · rename_i label
      exact reported_of_discover_admits label admits
  · intro reported
    unfold report
    cases reported with
    | unreadable label => rw [label]; exact ⟨rfl, rfl⟩
    | labelled label updated => rw [label]; exact submit_admits_iff.2 ⟨rfl, updated⟩
    | unlisted label failure => rw [label]; exact ⟨.error failure, [], rfl, rfl, rfl⟩
    | @uncreated checks label choice failure =>
      rw [label]
      refine ⟨.ok checks, _, rfl, ?_⟩
      simp only [choice]
      exact create_admits_iff.2 (.inl ⟨failure, rfl, rfl⟩)
    | found label found stored =>
      rw [label]
      cases found with
      | @chosen checks _ _ _ choice =>
        refine ⟨.ok checks, _, rfl, ?_⟩
        simp only [choice]
        exact store_admits_iff.2 ⟨rfl, stored⟩
      | @created checks _ choice =>
        refine ⟨.ok checks, _, rfl, ?_⟩
        simp only [choice]
        exact create_admits_iff.2 (.inr ⟨_, _, rfl, rfl, stored⟩)

end CommitChecks.CheckMode

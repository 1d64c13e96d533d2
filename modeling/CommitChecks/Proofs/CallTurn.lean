import CommitChecks.Collaborator
import CommitChecks.Proofs.Turns

/-!
# Calls and the replies to them

What can be read off a call and its reply: which check the call carries, how it failed, and what was
created. A patch carries the check whose identifier it stores; `checkId?_forCheck` and
`checkId?_applyTo_forCheck` say that the identifier is read back from the patch and from the patched
run as it was written.
-/

namespace CommitChecks

/-- The identifier of the run's check, if its label holds one. -/
def Run.checkId? (run : Run) : Option UInt64 :=
  run.checkIdText.bind fun text => Decimal.readUInt64 text.toList

namespace MetadataPatch

/-- The identifier of the check that the patch stores. -/
def checkId? (patch : MetadataPatch) : Option UInt64 :=
  (patch.labels.get? Run.checkIdKey).bind fun text => Decimal.readUInt64 text.toList

@[simp] theorem checkId?_forCheck (id : UInt64) (logUrl : String) :
    (forCheck id logUrl).checkId? = some id := by
  rw [checkId?, forCheck, Labels.get?_insert, if_pos rfl, Option.bind_some,
    Decimal.readUInt64_repr]

@[simp] theorem checkIdText_applyTo_forCheck (id : UInt64) (logUrl : String) (run : Run) :
    ((forCheck id logUrl).applyTo run).checkIdText = some id.toNat.repr := by
  change (run.labels.insert Run.checkIdKey id.toNat.repr).get? Run.checkIdKey = _
  rw [Labels.get?_insert, if_pos rfl]

/-- A run patched with an identifier holds that very identifier. -/
theorem checkId?_applyTo_forCheck (id : UInt64) (logUrl : String) (run : Run) :
    ((forCheck id logUrl).applyTo run).checkId? = some id := by
  rw [Run.checkId?, checkIdText_applyTo_forCheck, Option.bind_some, Decimal.readUInt64_repr]

end MetadataPatch

/-- The check that a call carries: the one it updates, or the one whose identifier it stores. -/
def Call.checkId? : Call → Option UInt64
  | update _ id _ => some id
  | patch _ stored => stored.checkId?
  | _ => none

/-- Only patches and updates carry a check. -/
theorem Call.kind_of_checkId? {call : Call} {id : UInt64} (carries : call.checkId? = some id) :
    call.kind = .patch ∨ call.kind = .update := by
  cases call <;> simp_all [Call.kind, Call.checkId?]

/-- The external identifier that a call gives a check. -/
def Call.externalId? : Call → Option String
  | create _ check => some check.externalId
  | update _ _ contents => contents.externalId
  | _ => none

theorem Call.kind_of_externalId? {call : Call} {name : String}
    (gives : call.externalId? = some name) : call.kind = .create ∨ call.kind = .update := by
  cases call <;> simp_all [Call.kind, Call.externalId?]

/-- The annotations that a call gives a check. -/
def Call.annotations? : Call → Option (List Diagnostic)
  | update _ _ contents => some contents.output.annotations
  | _ => none

theorem Call.kind_of_annotations? {call : Call} {annotations : List Diagnostic}
    (gives : call.annotations? = some annotations) : call.kind = .update := by
  cases call <;> simp_all [Call.kind, Call.annotations?]

instance (call : Call) : Inhabited call.Reply :=
  ⟨.error .noHosting⟩

/-- A call together with the reply to it. -/
abbrev CallTurn : Type :=
  Turn Call Call.Reply

namespace Turn

/-- How the call failed, if it did. -/
def failure? (turn : CallTurn) : Option Failure :=
  match turn.answer with
  | .ok _ => none
  | .error failure => some failure

/-- The check that the call created. -/
def createdId? : CallTurn → Option UInt64
  | ⟨.create _ _, .ok id⟩ => some id
  | _ => none

/-- The checks that the call listed. -/
def listed : CallTurn → List ExistingCheck
  | ⟨.list _ _, .ok checks⟩ => checks
  | _ => []

/-- A call is none of those that are all of other kinds. -/
theorem not_mem_of_kinds {turn : CallTurn} {turns : List CallTurn} {kinds : List Call.Kind}
    (made : (turns.map fun turn => turn.question.kind).Sublist kinds)
    (other : turn.question.kind ∉ kinds) : turn ∉ turns :=
  fun member => other (made.subset (List.mem_map_of_mem member))

theorem kind_of_mem_listed {turn : CallTurn} {check : ExistingCheck}
    (present : check ∈ turn.listed) : turn.question.kind = .list := by
  obtain ⟨question, answer⟩ := turn
  cases question with
  | list => rfl
  | _ => exact nomatch present

theorem kind_of_createdId? {turn : CallTurn} {id : UInt64} (created : turn.createdId? = some id) :
    turn.question.kind = .create := by
  unfold createdId? at created
  split at created
  · rfl
  · contradiction

theorem exists_externalId?_of_createdId? {turn : CallTurn} {id : UInt64}
    (created : turn.createdId? = some id) : ∃ name, turn.question.externalId? = some name := by
  obtain ⟨question, answer⟩ := turn
  cases question with
  | create event check => exact ⟨check.externalId, rfl⟩
  | _ => exact nomatch created

end Turn

/-- Whether all patches and updates among the calls carry this check. -/
def CarriesOnly (id : UInt64) (turns : List CallTurn) : Prop :=
  ∀ turn ∈ turns, turn.question.kind = .patch ∨ turn.question.kind = .update →
    turn.question.checkId? = some id

namespace CarriesOnly

variable {id : UInt64} {turns : List CallTurn}

theorem eq (only : CarriesOnly id turns) {turn : CallTurn} (member : turn ∈ turns)
    {carried : UInt64} (carries : turn.question.checkId? = some carried) : carried = id :=
  Option.some.inj (carries.symm.trans (only turn member (Call.kind_of_checkId? carries)))

/-- Calls of other kinds carry any check. -/
theorem of_kinds (others : ∀ turn ∈ turns, turn.question.kind ≠ .patch ∧
    turn.question.kind ≠ .update) : CarriesOnly id turns := by
  intro turn member kind
  obtain ⟨notPatch, notUpdate⟩ := others turn member
  exact absurd kind (by simp [notPatch, notUpdate])

theorem append {later : List CallTurn} (only : CarriesOnly id turns) (after : CarriesOnly id later) :
    CarriesOnly id (turns ++ later) :=
  List.forall_mem_append.2 ⟨only, after⟩

end CarriesOnly
end CommitChecks

import CommitChecks.GitHub.Client
import CommitChecks.Proofs.CallTurn
import CommitChecks.Proofs.GitHub.Exchanges

/-!
# Writes to the hosting service

Every call that writes to the hosting service is one exchange under the name of an operation, and fails
as the exchange does. A write is sent once if what comes back first is final. Trouble that may pass has it
sent again, at most three times, even though the service may have taken it each time.
-/

namespace CommitChecks.GitHub

/-! ## When a request is sent again -/

theorem ne_nil_of_deliver_admits {request : Request} {retries : Nat} {turns : List RequestTurn}
    {delivery : Option Response} (admits : (deliver request retries).Admits turns delivery) :
    turns ≠ [] := by
  obtain ⟨troubled, rfl, -⟩ := deliver_admits admits
  simp

/-- A request is sent again exactly after trouble that may pass, as long as it may be sent again. -/
theorem deliver_admits_split {request : Request} {retries : Nat} {turns : List RequestTurn}
    {delivery : Option Response} (admits : (deliver request retries).Admits turns delivery)
    {before after : List RequestTurn} {turn : RequestTurn} (split : turns = before ++ turn :: after) :
    after ≠ [] ↔ before.length < retries ∧ Option.all Response.isTransient turn.answer = true := by
  -- By induction on the retries left: the turn is the first one, or it is found after a first turn that
  -- took one of them.
  induction retries generalizing turns before with
  | zero =>
    obtain ⟨reply, rest, rfl, rfl, rfl⟩ := admits
    obtain ⟨rfl, same⟩ | ⟨_, rfl, same⟩ := List.cons_eq_append_iff.1 split
    · simp [(List.cons.inj same).2]
    · simp at same
  | succ retries ih =>
    obtain ⟨reply, rest, rfl, admits⟩ := admits
    dsimp only at admits
    obtain ⟨rfl, same⟩ | ⟨earlier, rfl, same⟩ := List.cons_eq_append_iff.1 split
    · obtain ⟨rfl, rfl⟩ := List.cons.inj same
      split at admits
      · rename_i passes
        simp [passes, ne_nil_of_deliver_admits admits]
      · rename_i final
        simp [final, admits.1]
    · split at admits
      · simpa using ih admits same
      · simp [admits.1] at same

variable {α : Type} {base : String} {method : Method} {route : String} {body : Option Value}
  {decode : Decoder α} {turns : List RequestTurn}

theorem exchange_admits_split {result : Except Fault α}
    (admits : (exchange base method route body decode).Admits turns result)
    {before after : List RequestTurn} {turn : RequestTurn} (split : turns = before ++ turn :: after) :
    after ≠ [] ↔ before.length < maxRetries ∧ Option.all Response.isTransient turn.answer = true := by
  unfold exchange at admits
  split at admits
  · obtain ⟨rfl, -⟩ := admits
    simp at split
  · obtain ⟨delivery, sent, -⟩ := Dialogue.admits_map.1 admits
    exact deliver_admits_split sent split

/-! ## What is written -/

/-- What a call writes: the operation as failures name it, and the request for it. -/
structure Writing where
  operation : String
  method : Method
  route : String
  body : Value

/-- What a call writes to the hosting service, if it writes anything there. -/
def writing? : Call → Option Writing
  | .create event check =>
    some ⟨"Create check run", .post, s!"{Client.repositoryRoute event}/check-runs", createBody check⟩
  | .update event id contents =>
    some ⟨"Update check run", .patch, s!"{Client.repositoryRoute event}/check-runs/{id.toNat}",
      updateBody contents⟩
  | .status event status =>
    some ⟨"Create commit status", .post, s!"{Client.repositoryRoute event}/statuses/{event.sha}",
      statusBody status⟩
  | .comment event number text =>
    some ⟨"Create pull request comment", .post,
      s!"{Client.repositoryRoute event}/issues/{number.toNat}/comments", commentBody text⟩
  | .list _ _ | .patch _ _ | .logs _ _ => none

/-- How something failed, if it did. -/
def failureOf {α : Type} : Except Failure α → Option Failure
  | .ok _ => none
  | .error failure => some failure

/-- Whether something was written by an exchange with these turns, and failed as the exchange did. -/
def Wrote (client : Client) (writing : Writing) (turns : List RequestTurn)
    (failure : Option Failure) : Prop :=
  ∃ (α : Type) (decode : Decoder α) (ended : Except Fault α),
    (exchange client.base writing.method writing.route (some writing.body) decode).Admits turns ended ∧
      failure = failureOf (ended.mapError fun fault => .submission writing.operation fault.name)

variable {client : Client} {writing : Writing}

theorem Client.wrote_of_write {result : Except Failure α}
    (admits : (client.write writing.operation writing.method writing.route writing.body decode).Admits
      turns result) :
    Wrote client writing turns (failureOf result) := by
  obtain ⟨ended, exchanged, rfl⟩ := Dialogue.admits_map.1 admits
  exact ⟨α, decode, ended, exchanged, rfl⟩

/-- Nothing more is sent once it is known how a write went. -/
theorem Client.wrote_of_closed {next : Except Failure α → Correspondence (Except Failure Unit)}
    {result : Except Failure Unit}
    (admits : ((client.write writing.operation writing.method writing.route writing.body decode).andThen
      next).Admits turns result)
    (closes : ∀ reply rest, (next reply).Admits rest result → rest = [] ∧
      failureOf result = failureOf reply) :
    Wrote client writing turns (failureOf result) := by
  obtain ⟨first, middle, rest, rfl, sent, admits⟩ := Dialogue.admits_andThen.1 admits
  obtain ⟨rfl, same⟩ := closes _ _ admits
  rw [List.append_nil, same]
  exact wrote_of_write sent

theorem Client.wrote_of_update {event : Event} {id : UInt64} {contents : CheckUpdate}
    (writes : writing? (.update event id contents) = some writing) {result : Except Failure Unit}
    (admits : (client.update event id contents).Admits turns result) :
    Wrote client writing turns (failureOf result) := by
  cases writes
  rw [Client.update, Dialogue.admits_noteAll] at admits
  refine wrote_of_closed admits fun reply rest closing => ?_
  cases reply <;> obtain ⟨rfl, rfl⟩ := closing <;> exact ⟨rfl, rfl⟩

theorem Client.wrote_of_comment {event : Event} {number : UInt64} {text : String}
    (writes : writing? (.comment event number text) = some writing) {result : Except Failure Unit}
    (admits : (client.comment event number text).Admits turns result) :
    Wrote client writing turns (failureOf result) := by
  cases writes
  refine wrote_of_closed admits fun reply rest closing => ?_
  cases reply <;> obtain ⟨rfl, rfl⟩ := closing <;> exact ⟨rfl, rfl⟩

/-- How the client makes a call that writes: by the exchange for it. -/
theorem Client.wrote_of_perform {call : Call} (writes : writing? call = some writing)
    {correspondence : Correspondence call.Reply}
    (performs : client.perform? call = some correspondence) {result : call.Reply}
    (admits : correspondence.Admits turns result) :
    Wrote client writing turns (failureOf result) := by
  cases call with
  | create event check =>
    cases writes
    cases performs
    exact wrote_of_write admits
  | status event status =>
    cases writes
    cases performs
    exact wrote_of_write admits
  | update event id contents =>
    cases performs
    exact wrote_of_update writes admits
  | comment event number text =>
    cases performs
    exact wrote_of_comment writes admits
  | list | patch | logs => exact nomatch writes

/-! ## How often it is sent -/

namespace Wrote

variable {failure : Option Failure}

/-- All that is sent is the one request. -/
theorem question (wrote : Wrote client writing turns failure) : ∀ turn ∈ turns,
    ∃ address, Address.read? writing.route = some address ∧
      turn.question = ⟨writing.method, client.base ++ address.target, some writing.body⟩ := by
  obtain ⟨α, decode, ended, admits, -⟩ := wrote
  cases exchanged_of_admits admits with
  | unaddressed => simp
  | delivered delivery read again few =>
    refine List.forall_mem_append.2 ⟨fun turn member => ⟨_, read, (again turn member).1⟩, ?_⟩
    exact List.forall_mem_singleton.2 ⟨_, read, rfl⟩

theorem eq_nil_iff (wrote : Wrote client writing turns failure) :
    turns = [] ↔ Address.read? writing.route = none := by
  obtain ⟨α, decode, ended, admits, -⟩ := wrote
  cases exchanged_of_admits admits with
  | unaddressed unread => exact iff_of_true rfl unread
  | delivered delivery read => simp [read]

theorem length_le (wrote : Wrote client writing turns failure) : turns.length ≤ maxRetries + 1 := by
  obtain ⟨α, decode, ended, admits, -⟩ := wrote
  cases exchanged_of_admits admits with
  | unaddressed => exact Nat.zero_le _
  | delivered delivery read again few => simpa using few

theorem split (wrote : Wrote client writing turns failure) {before after : List RequestTurn}
    {turn : RequestTurn} (split : turns = before ++ turn :: after) :
    after ≠ [] ↔ before.length < maxRetries ∧ Option.all Response.isTransient turn.answer = true := by
  obtain ⟨α, decode, ended, admits, -⟩ := wrote
  exact exchange_admits_split admits split

theorem operation (wrote : Wrote client writing turns failure) {failed : Failure}
    (fails : failure = some failed) :
    ∃ fault : Fault, failed = .submission writing.operation fault.name := by
  obtain ⟨α, decode, ended, -, rfl⟩ := wrote
  cases ended with
  | ok => exact nomatch fails
  | error fault => exact ⟨fault, (Option.some.inj fails).symm⟩

/-- A write has not failed only if it was granted in the end. -/
theorem granted (wrote : Wrote client writing turns failure) (succeeds : failure = none) :
    ∃ before last, turns = before ++ [last] ∧ Option.any Response.isSuccess last.answer = true := by
  obtain ⟨α, decode, ended, admits, rfl⟩ := wrote
  cases exchanged_of_admits admits with
  | unaddressed => exact nomatch succeeds
  | @delivered address troubled delivery read again few =>
    refine ⟨troubled, _, rfl, ?_⟩
    change Option.any _ delivery = true
    cases gives : readDelivery decode delivery with
    | ok reply => exact any_isSuccess_of_readDelivery gives
    | error fault => rw [gives] at succeeds; exact nomatch succeeds

end Wrote

/-- A write is sent until what comes back is no trouble that may pass, and no more than four times: one
and the same request each time. It fails under the name of its operation, and does not fail only if it
was granted in the end. -/
theorem writes_are_sent_until_trouble_passes {Service : Type} (client : Client)
    (service : Answerer Request Delivery Service) (state : Service) {call : Call} {writing : Writing}
    (writes : writing? call = some writing) :
    ∃ correspondence, client.perform? call = some correspondence ∧
      let sent := correspondence.turns service state
      let failure := failureOf (correspondence.run service state).result
      (∀ turn ∈ sent, ∃ address, Address.read? writing.route = some address ∧
        turn.question = ⟨writing.method, client.base ++ address.target, some writing.body⟩) ∧
      (sent = [] ↔ Address.read? writing.route = none) ∧
      sent.length ≤ 4 ∧
      (∀ before turn after, sent = before ++ turn :: after →
        (after ≠ [] ↔ before.length < 3 ∧ Option.all Response.isTransient turn.answer = true)) ∧
      (∀ failed, failure = some failed →
        ∃ fault : Fault, failed = .submission writing.operation fault.name) ∧
      (failure = none →
        ∃ before last, sent = before ++ [last] ∧ Option.any Response.isSuccess last.answer = true) := by
  obtain ⟨correspondence, performs⟩ : ∃ correspondence, client.perform? call = some correspondence := by
    cases call with
    | list | patch | logs => exact nomatch writes
    | _ => exact ⟨_, rfl⟩
  refine ⟨correspondence, performs, ?_⟩
  intro sent failure
  have wrote : Wrote client writing sent failure :=
    Client.wrote_of_perform writes performs (Dialogue.admits_run service correspondence state)
  exact ⟨wrote.question, wrote.eq_nil_iff, wrote.length_le, fun before turn after => wrote.split,
    fun failed => wrote.operation, wrote.granted⟩

/-- A service that fails at first, and then grants what it is asked for, gets the one request to create a
check twice. -/
theorem writes_are_sent_until_trouble_passes_once :
    let client : Client := ⟨"token", Client.defaultAddress⟩
    let event : Event := ⟨"acme", "widgets", "0123abc", .push, none, 7⟩
    let check : NewCheck := ⟨"CI", "0123abc", .inProgress, "", "ci", .epoch⟩
    let service : Answerer Request Delivery Nat :=
      { answer := fun _ asked => some
          (if asked = 0 then ⟨503, none⟩ else ⟨201, some (.record [("id", .int 7)])⟩)
        after := fun _ asked => asked + 1 }
    let sent := (client.create event check).turns service 0
    writing? (.create event check) =
        some ⟨"Create check run", .post, "/repos/acme/widgets/check-runs", createBody check⟩ ∧
      sent.length = 2 ∧ ((client.create event check).run service 0).result.toOption = some 7 ∧
      ∀ turn ∈ sent, turn.question =
        ⟨.post, "/repos/acme/widgets/check-runs", some (createBody check)⟩ := by
  intro client event check service sent
  have writes : writing? (.create event check) =
      some ⟨"Create check run", .post, "/repos/acme/widgets/check-runs", createBody check⟩ := rfl
  obtain ⟨correspondence, performs, question, -⟩ :=
    writes_are_sent_until_trouble_passes client service 0 writes
  obtain rfl := Option.some.inj performs
  refine ⟨writes, by decide +kernel, by decide +kernel, fun turn member => ?_⟩
  obtain ⟨address, read, same⟩ := question turn member
  have target : Address.read? "/repos/acme/widgets/check-runs" =
      some ⟨none, "", "/repos/acme/widgets/check-runs"⟩ := by decide +kernel
  obtain rfl := Option.some.inj (target.symm.trans read)
  have base : client.base = "" := by decide +kernel
  rw [same, base]
  rfl

/-- A service that fails whenever it is asked is asked four times to create one and the same check. -/
theorem create_is_sent_again_after_failure :
    let client : Client := ⟨"token", Client.defaultAddress⟩
    let event : Event := ⟨"owner", "repo", "0123abc", .push, none, 12345⟩
    let check : NewCheck := ⟨"CI", "0123abc", .inProgress, "", "ci", .epoch⟩
    let service : Answerer Request Delivery Unit :=
      { answer := fun _ _ => some ⟨503, some (.record [("message", .str "unavailable")])⟩ }
    let sent := (client.create event check).turns service ()
    sent.map (·.question.method) = [.post, .post, .post, .post] ∧ ¬ sent.length ≤ 1 ∧
      failureOf ((client.create event check).run service ()).result =
        some (.submission "Create check run" "GitHub") := by
  intro client event check service sent
  decide +kernel

end CommitChecks.GitHub

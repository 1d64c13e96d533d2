import CommitChecks.GitHub.Exchange
import CommitChecks.Proofs.Turns

/-!
# How an exchange can go

An exchange whose route is no address sends nothing. Any other one sends the same request until
something else than trouble that may pass comes back, or it was sent again as often as it may be; what
came back last is what counts. `Exchanged` says so whoever answers.
-/

namespace CommitChecks.GitHub

/-- A request together with what came back for it. -/
abbrev RequestTurn : Type :=
  Turn Request Delivery

/-- How an exchange can go. -/
inductive Exchanged {α : Type} (base : String) (method : Method) (route : String)
    (body : Option Value) (decode : Decoder α) : List RequestTurn → Except Fault α → Prop
  | unaddressed (unread : Address.read? route = none) :
      Exchanged base method route body decode [] (.error .address)
  | delivered {address : Address} {troubled : List RequestTurn} (delivery : Option Response)
      (read : Address.read? route = some address)
      (again : ∀ turn ∈ troubled, turn.question = ⟨method, base ++ address.target, body⟩ ∧
        Option.all Response.isTransient turn.answer = true)
      (few : troubled.length ≤ maxRetries) :
      Exchanged base method route body decode
        (troubled ++ [⟨⟨method, base ++ address.target, body⟩, delivery⟩])
        (readDelivery decode delivery)

/-- A request is sent again only after trouble that may pass. -/
theorem deliver_admits {request : Request} {retries : Nat} {turns : List RequestTurn}
    {delivery : Option Response} (admits : (deliver request retries).Admits turns delivery) :
    ∃ troubled : List RequestTurn, turns = troubled ++ [⟨request, delivery⟩] ∧
      troubled.length ≤ retries ∧ ∀ turn ∈ troubled, turn.question = request ∧
        Option.all Response.isTransient turn.answer = true := by
  induction retries generalizing turns with
  | zero =>
    obtain ⟨reply, rest, rfl, rfl, rfl⟩ := admits
    exact ⟨[], rfl, Nat.le_refl 0, by simp⟩
  | succ retries ih =>
    obtain ⟨reply, rest, rfl, admits⟩ := admits
    dsimp only at admits
    split at admits
    · rename_i passes
      obtain ⟨troubled, rfl, few, again⟩ := ih admits
      refine ⟨⟨request, reply⟩ :: troubled, rfl, Nat.succ_le_succ few, ?_⟩
      exact List.forall_mem_cons.2 ⟨⟨rfl, passes⟩, again⟩
    · obtain ⟨rfl, rfl⟩ := admits
      exact ⟨[], rfl, Nat.zero_le _, by simp⟩

variable {α : Type} {base : String} {method : Method} {route : String} {body : Option Value}
  {decode : Decoder α} {turns : List RequestTurn} {result : Except Fault α}

theorem exchanged_of_admits (admits : (exchange base method route body decode).Admits turns result) :
    Exchanged base method route body decode turns result := by
  unfold exchange at admits
  split at admits
  · rename_i unread
    obtain ⟨rfl, rfl⟩ := admits
    exact .unaddressed unread
  · rename_i address read
    obtain ⟨delivery, sent, rfl⟩ := Dialogue.admits_map.1 admits
    obtain ⟨troubled, rfl, few, again⟩ := deliver_admits sent
    exact .delivered delivery read again few

/-- What an exchange gives is read from what came back last. -/
theorem Exchanged.exists_delivery {reply : α}
    (exchanged : Exchanged base method route body decode turns (.ok reply)) :
    ∃ turn ∈ turns, .ok reply = readDelivery decode turn.answer := by
  generalize ended : Except.ok reply = result at exchanged
  cases exchanged with
  | unaddressed => contradiction
  | delivered delivery read again few =>
    exact ⟨_, List.mem_append_right _ List.mem_cons_self, rfl⟩

/-- A request that is granted is not sent again. -/
theorem isTransient_eq_false {response : Response} (granted : response.isSuccess = true) :
    response.isTransient = false := by
  rw [Response.isSuccess, Bool.and_eq_true, decide_eq_true_eq, decide_eq_true_eq] at granted
  simp only [Response.isTransient, Bool.or_eq_false_iff, Bool.and_eq_false_iff,
    decide_eq_false_iff_not]
  omega

theorem readDelivery_of_isSuccess {response : Response} {document : Value} {reply : α}
    (granted : response.isSuccess = true) (held : response.document = some document)
    (decodes : decode .json document = .ok reply) :
    readDelivery decode (some response) = .ok reply := by
  simp only [readDelivery, granted, if_true, held, Option.map_some, decodes]

/-- What is read stands in the document that came back. -/
theorem readDelivery_eq_ok {delivery : Option Response} {reply : α}
    (read : readDelivery decode delivery = .ok reply) :
    ∃ response document, delivery = some response ∧ response.document = some document ∧
      decode .json document = .ok reply := by
  unfold readDelivery at read
  split at read
  · contradiction
  · rename_i response
    split at read
    · split at read
      · rename_i decoded
        obtain ⟨document, held, decodes⟩ := Option.map_eq_some_iff.1 decoded
        exact ⟨response, document, rfl, held, Except.ok.inj read ▸ decodes⟩
      · contradiction
    · split at read <;> contradiction

/-- Only a request that was granted gives anything. -/
theorem any_isSuccess_of_readDelivery {delivery : Option Response} {reply : α}
    (read : readDelivery decode delivery = .ok reply) : delivery.any Response.isSuccess = true := by
  unfold readDelivery at read
  split at read
  · contradiction
  · split at read
    · rename_i granted
      exact granted
    · split at read <;> contradiction

end CommitChecks.GitHub

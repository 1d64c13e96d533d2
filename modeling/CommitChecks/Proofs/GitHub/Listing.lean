import CommitChecks.GitHub.Client
import CommitChecks.Proofs.GitHub.CheckRecord
import CommitChecks.Proofs.GitHub.Exchanges

/-!
# Listing the checks of a commit

A hosting service that shows its checks page by page is asked for one page after the other, until a
page is not full or all checks are listed. What comes out is every check once and in order, whatever
number of checks the service says there are beyond those it has; a page that cannot be had makes the
whole listing fail.
-/

namespace CommitChecks.GitHub

/-- The request for a page of the checks of a commit. -/
def pageRequest (client : Client) (event : Event) (applicationId : Option UInt64) (page : Nat) :
    Request :=
  ⟨.get, client.base ++ Client.pageRoute event applicationId page, none⟩

/-- Whether the route of a page is an address that is sent as it stands. -/
def Addressed (event : Event) (applicationId : Option UInt64) (page : Nat) : Prop :=
  (Address.read? (Client.pageRoute event applicationId page)).map Address.target =
    some (Client.pageRoute event applicationId page)

instance (event : Event) (applicationId : Option UInt64) :
    DecidablePred (Addressed event applicationId) :=
  fun _ => inferInstanceAs (Decidable (_ = _))

/-- The checks on a page; pages are counted from one. -/
def slice (records : List CheckRecord) (page : Nat) : List CheckRecord :=
  (records.drop (Page.size * (page - 1))).take Page.size

/-- Whether a response shows a page of the checks, and an admissible number of checks in all. -/
def ShowsPage (records : List CheckRecord) (reported : UInt64 → Prop) (page : Nat)
    (delivery : Option Response) : Prop :=
  ∃ response document total, delivery = some response ∧ response.isSuccess = true ∧
    response.document = some document ∧ PageShows total (slice records page) document ∧
      reported total

/-- Whether a service shows checks page by page, up to the page behind the last full one. -/
def ServesPages {State : Type} (service : Answerer Request Delivery State) (client : Client)
    (event : Event) (applicationId : Option UInt64) (records : List CheckRecord)
    (reported : UInt64 → Prop) : Prop :=
  ∀ page, 1 ≤ page → page ≤ records.length / Page.size + 1 → ∀ state,
    ShowsPage records reported page
      (service.answer (pageRequest client event applicationId page) state)

variable {client : Client} {event : Event} {applicationId : Option UInt64}
  {records : List CheckRecord} {reported : UInt64 → Prop} {turns : List RequestTurn}

/-- A page that is shown is had at the first attempt. -/
theorem exchanged_of_shown {page : Nat} {result : Except Fault Page}
    (addressed : Addressed event applicationId page)
    (exchanged : Exchanged client.base .get (Client.pageRoute event applicationId page) none
      Page.decode turns result)
    (shown : ∀ turn ∈ turns, turn.question = pageRequest client event applicationId page →
      ShowsPage records reported page turn.answer) :
    turns.map Turn.question = [pageRequest client event applicationId page] ∧
      ∃ total, reported total ∧
        result = .ok ⟨total, (slice records page).map CheckRecord.listed⟩ := by
  cases exchanged with
  | unaddressed unread =>
    rw [Addressed, unread] at addressed
    contradiction
  | @delivered address troubled delivery read again few =>
    rw [Addressed, read] at addressed
    have target : address.target = Client.pageRoute event applicationId page :=
      Option.some.inj addressed
    rw [target] at shown again ⊢
    have first : troubled = [] := by
      cases troubled with
      | nil => rfl
      | cons turn rest =>
        obtain ⟨asks, troubles⟩ := again turn List.mem_cons_self
        obtain ⟨response, document, total, answers, granted, -⟩ :=
          shown turn (List.mem_cons_self) asks
        rw [answers, Option.all_some, isTransient_eq_false granted] at troubles
        contradiction
    subst first
    obtain ⟨response, document, total, answers, granted, held, shows, admissible⟩ :=
      shown _ List.mem_cons_self rfl
    have answered : delivery = some response := answers
    rw [answered]
    exact ⟨rfl, total, admissible, readDelivery_of_isSuccess granted held shows.decode⟩

/-- The checks of the first pages, and then those of the next one. -/
theorem take_append_slice (records : List CheckRecord) (done : Nat) :
    records.take (Page.size * done) ++ slice records (done + 1) =
      records.take (Page.size * (done + 1)) := by
  rw [slice, Nat.add_sub_cancel, Nat.mul_succ, ← List.take_add]

theorem length_slice (records : List CheckRecord) (done : Nat) :
    (slice records (done + 1)).length = min Page.size (records.length - Page.size * done) := by
  rw [slice, Nat.add_sub_cancel, List.length_take, List.length_drop]

/-- What one page does to a listing: it ends there, or goes on after a full page while there are more
checks to come. -/
theorem listFrom_admits_page {done : Nat} {ended : Except Fault (List ExistingCheck)}
    (addressed : Addressed event applicationId (done + 1))
    (admits : (client.listFrom event applicationId
      ((records.take (Page.size * done)).map CheckRecord.listed) (done + 1)).Admits turns ended)
    (shown : ∀ turn ∈ turns, turn.question = pageRequest client event applicationId (done + 1) →
      ShowsPage records reported (done + 1) turn.answer) :
    ∃ first rest total, turns = first ++ rest ∧
      first.map Turn.question = [pageRequest client event applicationId (done + 1)] ∧
      reported total ∧
      ((rest = [] ∧
          ended = .ok ((records.take (Page.size * (done + 1))).map CheckRecord.listed) ∧
          (records.length < Page.size * (done + 1) ∨
            total.toNat ≤ (records.take (Page.size * (done + 1))).length)) ∨
        (Page.size * (done + 1) ≤ records.length ∧
          (records.take (Page.size * (done + 1))).length < total.toNat ∧
          (client.listFrom event applicationId
            ((records.take (Page.size * (done + 1))).map CheckRecord.listed) (done + 2)).Admits
              rest ended)) := by
  rw [Client.listFrom] at admits
  obtain ⟨first, middle, rest, rfl, asked, admits⟩ := Dialogue.admits_andThen.1 admits
  obtain ⟨asks, total, admissible, rfl⟩ := exchanged_of_shown addressed
    (exchanged_of_admits asked) fun turn member => shown turn (List.mem_append_left _ member)
  have taken : (records.take (Page.size * done)).map CheckRecord.listed ++
      (slice records (done + 1)).map CheckRecord.listed =
        (records.take (Page.size * (done + 1))).map CheckRecord.listed := by
    rw [← List.map_append, take_append_slice]
  refine ⟨first, rest, total, rfl, asks, admissible, ?_⟩
  simp only [taken] at admits
  split at admits
  · rename_i last
    obtain ⟨rfl, rfl⟩ := admits
    simp only [Page.isLast, List.length_map, length_slice, Bool.or_eq_true, decide_eq_true_eq] at last
    refine .inl ⟨rfl, rfl, last.imp_left fun short => ?_⟩
    simp only [Page.size] at short ⊢
    omega
  · rename_i goesOn
    simp only [Page.isLast, List.length_map, length_slice, Bool.or_eq_true, decide_eq_true_eq, not_or,
      Nat.not_lt, Nat.not_le] at goesOn
    refine .inr ⟨?_, goesOn.2, admits⟩
    have full := goesOn.1
    simp only [Page.size] at full ⊢
    omega

/-- The listing goes on page after page and ends with all checks. -/
theorem listFrom_admits_shown
    (addressed : ∀ page, 1 ≤ page → page ≤ records.length / Page.size + 1 →
      Addressed event applicationId page)
    (enough : ∀ total, reported total → records.length ≤ total.toNat) {done : Nat}
    (reached : Page.size * done ≤ records.length) {ended : Except Fault (List ExistingCheck)}
    (admits : (client.listFrom event applicationId
      ((records.take (Page.size * done)).map CheckRecord.listed) (done + 1)).Admits turns ended)
    (shown : ∀ turn ∈ turns, ∀ page, 1 ≤ page → page ≤ records.length / Page.size + 1 →
      turn.question = pageRequest client event applicationId page →
        ShowsPage records reported page turn.answer) :
    ended = .ok (records.map CheckRecord.listed) ∧
      ∃ more, turns.map Turn.question =
          (List.range' (done + 1) (more + 1)).map (pageRequest client event applicationId) ∧
        done + more ≤ records.length / Page.size ∧
        ((∀ total, reported total → total.toNat = records.length) →
          done = 0 ∨ Page.size * done < records.length →
            done + more + 1 = max 1 ((records.length + (Page.size - 1)) / Page.size)) := by
  induction gap : records.length / Page.size - done using Nat.strongRecOn
    generalizing done turns with
  | _ left ih =>
    have within : done + 1 ≤ records.length / Page.size + 1 := by
      simp only [Page.size] at reached ⊢
      omega
    obtain ⟨first, rest, total, rfl, asks, admissible,
        ⟨rfl, rfl, last⟩ | ⟨full, unfinished, admits⟩⟩ :=
      listFrom_admits_page (addressed (done + 1) (Nat.le_add_left 1 done) within) admits
        fun turn member => shown turn member (done + 1) (Nat.le_add_left 1 done) within
    · have complete : records.length ≤ Page.size * (done + 1) := by
        have counted := enough total admissible
        rw [List.length_take] at last
        omega
      refine ⟨by rw [List.take_of_length_le complete], 0, by simpa using asks, ?_, ?_⟩
      · omega
      · intro exactly begun
        simp only [Page.size] at complete begun ⊢
        omega
    · have closer : records.length / Page.size - (done + 1) < left := by
        simp only [Page.size] at full gap ⊢
        omega
      obtain ⟨listed, more, requests, bounded, counted⟩ := ih _ closer full admits
        (fun turn member => shown turn (List.mem_append_right _ member)) rfl
      refine ⟨listed, more + 1, ?_, by omega, fun exactly _ => ?_⟩
      · rw [List.map_append, asks, requests]
        rfl
      · have further := counted exactly (.inr (by
          rw [List.length_take, exactly total admissible] at unfinished
          omega))
        omega

/-- What came back last for the request of an exchange is what the exchange reads. -/
theorem Exchanged.read_of_final {result : Except Fault Page} {route : String}
    (exchanged : Exchanged client.base .get route none Page.decode turns result)
    {before after : List RequestTurn} {turn : RequestTurn} (split : turns = before ++ turn :: after)
    (final : ∀ later ∈ after, later.question ≠ turn.question) :
    readDelivery Page.decode turn.answer = result := by
  cases exchanged with
  | unaddressed => simp at split
  | @delivered address troubled delivery read again few =>
    obtain rfl | ⟨others, last, rfl⟩ := List.eq_nil_or_concat after
    · obtain ⟨-, same⟩ := List.append_inj' split rfl
      obtain rfl := (List.cons.inj same).1
      rfl
    · -- Another turn follows, so this one met trouble and the same request was sent again.
      have same : troubled ++ [⟨⟨.get, client.base ++ address.target, none⟩, delivery⟩] =
          (before ++ turn :: others) ++ [last] := by
        rw [split]
        simp
      obtain ⟨rfl, isLast⟩ := List.append_inj' same rfl
      obtain rfl := (List.cons.inj isLast).1
      have asked := (again turn (by simp)).1
      exact absurd asked.symm (final ⟨_, delivery⟩ (by simp))

/-- A listing that succeeds has read what came back last for every request. -/
theorem readDelivery_of_listFrom_admits_ok {listed checks : List ExistingCheck} {page : Nat}
    (admits : (client.listFrom event applicationId listed page).Admits turns (.ok checks))
    {before after : List RequestTurn} {turn : RequestTurn} (split : turns = before ++ turn :: after)
    (final : ∀ later ∈ after, later.question ≠ turn.question) :
    ∃ reply, readDelivery Page.decode turn.answer = .ok reply := by
  induction listed, page using Client.listFrom.induct generalizing turns before with
  | case1 listed page ih =>
    rw [Client.listFrom] at admits
    obtain ⟨first, middle, rest, rfl, asked, admits⟩ := Dialogue.admits_andThen.1 admits
    have exchanged := exchanged_of_admits asked
    cases middle with
    | error fault => exact nomatch admits.2
    | ok reply =>
      have later : ∀ {between}, rest = between ++ turn :: after →
          ∃ reply, readDelivery Page.decode turn.answer = .ok reply := by
        rintro between rfl
        dsimp only at admits
        split at admits
        · obtain ⟨none, -⟩ := admits
          simp at none
        · rename_i goesOn
          exact ih reply goesOn admits rfl
      obtain ⟨between, rfl, here⟩ | ⟨own, rfl, here⟩ := List.append_eq_append_iff.1 split
      · exact later here
      · cases own with
        | nil =>
          have first : rest = [] ++ turn :: after := here.symm
          exact later first
        | cons head own =>
          obtain ⟨rfl, rfl⟩ := List.cons.inj here
          exact ⟨reply, exchanged.read_of_final rfl fun other member =>
            final other (List.mem_append_left _ member)⟩

/-- A listing ends as its pages do; a fault becomes a failure to find the checks. -/
theorem list_admits {result : Except Failure (List ExistingCheck)}
    (admits : (client.list event applicationId).Admits turns result) :
    (∃ checks, (client.listFrom event applicationId [] 1).Admits turns (.ok checks) ∧
      result = .ok checks) ∨
    ∃ fault, (client.listFrom event applicationId [] 1).Admits turns (.error fault) ∧
      result = .error (.discovery s!"listing check runs on {event.text}: {fault.name}") := by
  obtain ⟨first, middle, rest, rfl, listed, ends⟩ := Dialogue.admits_andThen.1 admits
  cases middle with
  | error fault =>
    obtain ⟨rfl, rfl⟩ := ends
    rw [List.append_nil]
    exact .inr ⟨fault, listed, rfl⟩
  | ok checks =>
    obtain ⟨rfl, rfl⟩ := ends
    rw [List.append_nil]
    exact .inl ⟨checks, listed, rfl⟩

/-- Without an address for the first page nothing is asked. -/
theorem listFrom_of_unaddressed {page : Nat} (listed : List ExistingCheck)
    (unread : Address.read? (Client.pageRoute event applicationId page) = none) :
    client.listFrom event applicationId listed page = .done (.error .address) := by
  rw [Client.listFrom, exchange, unread]
  rfl

theorem ne_nil_of_listFrom_admits_ok {listed checks : List ExistingCheck} {page : Nat}
    (admits : (client.listFrom event applicationId listed page).Admits turns (.ok checks)) :
    turns ≠ [] := by
  rw [Client.listFrom] at admits
  obtain ⟨first, middle, rest, rfl, asked, ends⟩ := Dialogue.admits_andThen.1 admits
  cases exchanged_of_admits asked with
  | unaddressed => exact nomatch ends.2
  | delivered => simp

/-! ## The pages that a listing comes to -/

/-- The exchange for a page of the checks of a commit. -/
def askPage (client : Client) (event : Event) (applicationId : Option UInt64) (page : Nat) :
    Correspondence (Except Fault Page) :=
  exchange client.base .get (Client.pageRoute event applicationId page) none Page.decode

/-- Whether a listing comes to a page after these turns, with these checks listed so far: it comes to
the first page, and from every page that is had and does not end the listing to the next one. -/
inductive ComesTo (client : Client) (event : Event) (applicationId : Option UInt64) :
    Nat → List RequestTurn → List ExistingCheck → Prop
  | first : ComesTo client event applicationId 1 [] []
  | next {page : Nat} {turns asked : List RequestTurn} {listed : List ExistingCheck} {reply : Page}
      (comes : ComesTo client event applicationId page turns listed)
      (reads : (askPage client event applicationId page).Admits asked (.ok reply))
      (goesOn : ¬ reply.isLast (listed ++ reply.checks).length) :
      ComesTo client event applicationId (page + 1) (turns ++ asked) (listed ++ reply.checks)

/-- The turns of a listing that comes to a page go on with those of the listing from that page on. -/
theorem ComesTo.listFrom_admits {page : Nat} {listed : List ExistingCheck} {rest : List RequestTurn}
    {ended : Except Fault (List ExistingCheck)}
    (comes : ComesTo client event applicationId page turns listed)
    (admits : (client.listFrom event applicationId [] 1).Admits (turns ++ rest) ended) :
    (client.listFrom event applicationId listed page).Admits rest ended := by
  induction comes generalizing rest with
  | first => exact admits
  | next comes reads goesOn ih =>
    rw [List.append_assoc] at admits
    have here := ih admits
    rw [Client.listFrom] at here
    have later := Dialogue.admits_of_andThen_admits reads here
    dsimp only at later
    rwa [dif_neg goesOn] at later

/-- A listing that comes to a page and sends nothing for it fails. -/
theorem ComesTo.ne_ok {page : Nat} {listed checks : List ExistingCheck}
    (comes : ComesTo client event applicationId page turns listed) :
    ¬ (client.listFrom event applicationId [] 1).Admits turns (.ok checks) := by
  intro admits
  rw [← List.append_nil turns] at admits
  exact ne_nil_of_listFrom_admits_ok (comes.listFrom_admits admits) rfl

/-! ## A service that shows its checks -/

theorem pageRequest_injective {page other : Nat}
    (same : (pageRequest client event applicationId page).target =
      (pageRequest client event applicationId other).target) : page = other := by
  have routes : Client.pageRoute event applicationId page =
      Client.pageRoute event applicationId other := (String.append_right_inj _).1 same
  have queries : Client.pageQuery applicationId page = Client.pageQuery applicationId other :=
    (String.append_right_inj _).1 routes
  have numerals : page.repr = other.repr := (String.append_right_inj _).1 queries
  have bounds : page < max page other + 1 ∧ other < max page other + 1 := by omega
  have read := Decimal.readBelow_repr bounds.1
  rw [numerals, Decimal.readBelow_repr bounds.2] at read
  exact (Option.some.inj read).symm

/-- A service that shows checks page by page and says that there are `total`. -/
def shelf (client : Client) (event : Event) (applicationId : Option UInt64)
    (records : List CheckRecord) (total : UInt64) : Answerer Request Delivery Unit where
  answer request _ :=
    ((List.range' 1 (records.length / Page.size + 1)).find? fun page =>
      request.target = (pageRequest client event applicationId page).target).map fun page =>
        ⟨200, some (pageDocument total (slice records page))⟩

theorem servesPages_shelf {total : UInt64} (admissible : reported total) :
    ServesPages (shelf client event applicationId records total) client event applicationId records
      reported := by
  intro page positive bounded state
  have found : (List.range' 1 (records.length / Page.size + 1)).find? (fun other =>
      (pageRequest client event applicationId page).target =
        (pageRequest client event applicationId other).target) = some page := by
    cases search : (List.range' 1 (records.length / Page.size + 1)).find? fun other =>
        (pageRequest client event applicationId page).target =
          (pageRequest client event applicationId other).target with
    | none =>
      have member : page ∈ List.range' 1 (records.length / Page.size + 1) :=
        List.mem_range'_1.2 ⟨positive, by omega⟩
      exact absurd (List.find?_eq_none.1 search page member) (by simp)
    | some other =>
      have same := List.find?_some search
      rw [decide_eq_true_eq] at same
      rw [pageRequest_injective same]
  refine ⟨⟨200, some (pageDocument total (slice records page))⟩, _, total, ?_, rfl, rfl,
    pageShows_pageDocument total _, admissible⟩
  simp only [shelf, found, Option.map_some]

/-! ## The whole listing -/

/-- A listing against a service that shows its checks page by page. -/
theorem run_list_of_servesPages {State : Type} {service : Answerer Request Delivery State}
    (addressed : ∀ page, 1 ≤ page → page ≤ records.length / Page.size + 1 →
      Addressed event applicationId page)
    (enough : ∀ total, reported total → records.length ≤ total.toNat)
    (serves : ServesPages service client event applicationId records reported) (state : State) :
    ((client.list event applicationId).run service state).result =
        .ok (records.map CheckRecord.listed) ∧
      ∃ more, ((client.list event applicationId).run service state).questions =
          (List.range' 1 (more + 1)).map (pageRequest client event applicationId) ∧
        more ≤ records.length / Page.size ∧
        ((∀ total, reported total → total.toNat = records.length) →
          more + 1 = max 1 ((records.length + (Page.size - 1)) / Page.size)) := by
  have shown : ∀ turn ∈ (client.list event applicationId).turns service state, ∀ page, 1 ≤ page →
      page ≤ records.length / Page.size + 1 →
      turn.question = pageRequest client event applicationId page →
        ShowsPage records reported page turn.answer := by
    intro turn member page positive bounded asks
    obtain ⟨moment, answered⟩ := Dialogue.exists_state_of_mem_turns member
    rw [answered, asks]
    exact serves page positive bounded moment
  have reached : Page.size * 0 ≤ records.length := Nat.zero_le _
  have follows : ∀ {ended}, (client.listFrom event applicationId [] 1).Admits
      ((client.list event applicationId).turns service state) ended → _ := fun {ended} admits =>
    listFrom_admits_shown addressed enough reached admits shown
  have questions := Dialogue.questions_run service (client.list event applicationId) state
  obtain ⟨checks, listed, result⟩ | ⟨fault, listed, -⟩ :=
    list_admits (Dialogue.admits_run service (client.list event applicationId) state)
  · obtain ⟨complete, more, requests, bounded, counted⟩ := follows listed
    rw [Nat.zero_add] at requests bounded counted
    obtain rfl := Except.ok.inj complete
    exact ⟨result, more, questions.trans requests, bounded, fun exactly =>
      counted exactly (.inl rfl)⟩
  · exact nomatch (follows listed).1

end CommitChecks.GitHub

import CommitChecks.Proofs.GitHub.Listing

/-!
# How many pages a listing asks for

The hosting service may show pages of any kind, and on each of them say anew how many checks there are. A
page that does not end a listing is full and leaves that number out of reach, so a bound for what the
service says bounds the pages that are asked for. What is listed are the checks on the pages that were
had, up to the first one that ends the listing.
-/

namespace CommitChecks.GitHub

/-- The page that came back for a request, if one did. -/
def received? (turn : RequestTurn) : Option Page :=
  (readDelivery Page.decode turn.answer).toOption

/-- The number of pages that so many checks fill, and one if there are none. -/
def pagesFor (total : Nat) : Nat :=
  max 1 ((total + (Page.size - 1)) / Page.size)

/-- How a listing goes on when it has come to the page after `done` ones with some checks listed: the
turns that follow, the pages that are had in them, and how it ends. -/
inductive Proceeds (client : Client) (event : Event) (applicationId : Option UInt64) :
    List ExistingCheck → Nat → List RequestTurn → List Page → Except Fault (List ExistingCheck) → Prop
  | failed {listed done turns fault}
      (asked : Exchanged client.base .get (Client.pageRoute event applicationId (done + 1)) none
        Page.decode turns (.error fault)) :
      Proceeds client event applicationId listed done turns [] (.error fault)
  | ended {listed done turns reply}
      (asked : Exchanged client.base .get (Client.pageRoute event applicationId (done + 1)) none
        Page.decode turns (.ok reply))
      (last : reply.isLast (listed ++ reply.checks).length = true) :
      Proceeds client event applicationId listed done turns [reply] (.ok (listed ++ reply.checks))
  | further {listed done first rest reply pages result}
      (asked : Exchanged client.base .get (Client.pageRoute event applicationId (done + 1)) none
        Page.decode first (.ok reply))
      (goesOn : ¬ reply.isLast (listed ++ reply.checks).length = true)
      (proceeds : Proceeds client event applicationId (listed ++ reply.checks) (done + 1) rest pages
        result) :
      Proceeds client event applicationId listed done (first ++ rest) (reply :: pages) result

variable {client : Client} {event : Event} {applicationId : Option UInt64} {done total : Nat}
  {listed : List ExistingCheck} {turns : List RequestTurn} {pages : List Page}
  {result : Except Fault (List ExistingCheck)}

/-- Every listing proceeds in one of these ways. -/
theorem proceeds_of_listFrom_admits {page : Nat} (next : page = done + 1)
    (admits : (client.listFrom event applicationId listed page).Admits turns result) :
    ∃ pages, Proceeds client event applicationId listed done turns pages result := by
  induction listed, page using Client.listFrom.induct generalizing turns done with
  | case1 listed page ih =>
    subst next
    rw [Client.listFrom] at admits
    obtain ⟨first, middle, rest, rfl, asked, admits⟩ := Dialogue.admits_andThen.1 admits
    have exchanged := exchanged_of_admits asked
    cases middle with
    | error fault =>
      obtain ⟨rfl, rfl⟩ := admits
      rw [List.append_nil]
      exact ⟨[], .failed exchanged⟩
    | ok reply =>
      dsimp only at admits
      split at admits
      · rename_i last
        obtain ⟨rfl, rfl⟩ := admits
        rw [List.append_nil]
        exact ⟨[reply], .ended exchanged last⟩
      · rename_i goesOn
        obtain ⟨pages, proceeds⟩ := ih reply goesOn rfl admits
        exact ⟨reply :: pages, .further exchanged goesOn proceeds⟩

/-! ## One exchange -/

section
variable {route : String} {ended : Except Fault Page}

theorem received?_eq_some_iff {turn : RequestTurn} {page : Page} :
    received? turn = some page ↔ readDelivery Page.decode turn.answer = .ok page := by
  unfold received?
  cases readDelivery Page.decode turn.answer <;> simp [Except.toOption]

/-- Trouble that may pass brings no page. -/
theorem received?_of_isTransient {turn : RequestTurn}
    (troubles : Option.all Response.isTransient turn.answer = true) : received? turn = none := by
  apply Option.eq_none_iff_forall_ne_some.2
  intro page received
  have granted := any_isSuccess_of_readDelivery (received?_eq_some_iff.1 received)
  cases answered : turn.answer with
  | none =>
    rw [answered] at granted
    contradiction
  | some response =>
    rw [answered, Option.all_some] at troubles
    rw [answered, Option.any_some] at granted
    rw [isTransient_eq_false granted] at troubles
    contradiction

/-- An exchange brings the page that it ends with, and no other one. -/
theorem Exchanged.filterMap_received?
    (asked : Exchanged client.base .get route none Page.decode turns ended) :
    turns.filterMap received? = ended.toOption.toList := by
  cases asked with
  | unaddressed => rfl
  | @delivered address troubled delivery read again few =>
    have nothing : troubled.filterMap received? = [] := by
      apply List.filterMap_eq_nil_iff.2
      intro turn member
      exact received?_of_isTransient (again turn member).2
    rw [List.filterMap_append, nothing, List.nil_append]
    cases reads : readDelivery Page.decode delivery <;> simp [received?, reads, Except.toOption]

theorem Exchanged.length_le
    (asked : Exchanged client.base .get route none Page.decode turns ended) :
    turns.length ≤ maxRetries + 1 := by
  cases asked with
  | unaddressed => exact Nat.zero_le _
  | delivered delivery read again few => simpa using few

/-- An exchange fails without an address or with what came back last. -/
theorem Exchanged.unread {fault : Fault}
    (asked : Exchanged client.base .get route none Page.decode turns (.error fault)) :
    Address.read? route = none ∨
      ∃ turn ∈ turns, readDelivery Page.decode turn.answer = .error fault := by
  generalize fails : Except.error fault = ended at asked
  cases asked with
  | unaddressed unread => exact .inl unread
  | delivered delivery =>
    right
    exact ⟨_, List.mem_append_right _ List.mem_cons_self, rfl⟩

theorem Exchanged.question
    (asked : Exchanged client.base .get route none Page.decode turns ended) :
    ∀ turn ∈ turns, ∃ address, Address.read? route = some address ∧
      turn.question = ⟨.get, client.base ++ address.target, none⟩ := by
  cases asked with
  | unaddressed => simp
  | @delivered address troubled delivery read again few =>
    intro turn member
    refine ⟨address, read, ?_⟩
    rcases List.mem_append.1 member with earlier | last
    · exact (again turn earlier).1
    · rw [List.mem_singleton.1 last]

end

/-! ## The whole listing -/

/-- The pages that are had are those which come back. -/
theorem Proceeds.filterMap_received?
    (proceeds : Proceeds client event applicationId listed done turns pages result) :
    turns.filterMap received? = pages := by
  induction proceeds with
  | failed asked => exact asked.filterMap_received?
  | ended asked last => exact asked.filterMap_received?
  | further asked goesOn proceeds ih =>
    rw [List.filterMap_append, asked.filterMap_received?, ih]
    rfl

/-- Whether a listing with some checks listed can have come to the page after `done` ones, where the
service never says that there are more than `total`. -/
structure Within (total done : Nat) (listed : List ExistingCheck) : Prop where
  full : Page.size * done ≤ listed.length
  room : done = 0 ∨ listed.length < total

/-- There is room for the page that the listing has come to. -/
theorem Within.lt_pagesFor (within : Within total done listed) : done < pagesFor total := by
  obtain ⟨full, room⟩ := within
  unfold pagesFor
  unfold Page.size at full ⊢
  omega

/-- A page that does not end the listing leaves room for the next one. -/
theorem Within.next (within : Within total done listed) {reply : Page}
    (truthful : reply.totalCount.toNat ≤ total)
    (goesOn : ¬ reply.isLast (listed ++ reply.checks).length = true) :
    Within total (done + 1) (listed ++ reply.checks) := by
  have full := within.full
  simp only [Page.isLast, Bool.or_eq_true, decide_eq_true_eq, not_or, Nat.not_lt, Nat.not_le] at goesOn
  constructor
  · rw [List.length_append]
    unfold Page.size at full goesOn ⊢
    omega
  · exact .inr (Nat.lt_of_lt_of_le goesOn.2 truthful)

/-- Since every page but the last one is full, no more pages are had than the checks fill. -/
theorem Proceeds.length_add_le
    (proceeds : Proceeds client event applicationId listed done turns pages result)
    (within : Within total done listed) (truthful : ∀ page ∈ pages, page.totalCount.toNat ≤ total) :
    pages.length + done ≤ pagesFor total := by
  induction proceeds with
  | failed asked =>
    have below := within.lt_pagesFor
    simp
    omega
  | ended asked last =>
    have below := within.lt_pagesFor
    simp
    omega
  | further asked goesOn proceeds ih =>
    obtain ⟨first, others⟩ := List.forall_mem_cons.1 truthful
    have later := ih (within.next first goesOn) others
    rw [List.length_cons]
    omega

theorem Proceeds.turns_length_add_le
    (proceeds : Proceeds client event applicationId listed done turns pages result)
    (within : Within total done listed) (truthful : ∀ page ∈ pages, page.totalCount.toNat ≤ total) :
    turns.length + (maxRetries + 1) * done ≤ (maxRetries + 1) * pagesFor total := by
  induction proceeds with
  | failed asked =>
    have below := within.lt_pagesFor
    have few := asked.length_le
    unfold maxRetries at few ⊢
    omega
  | ended asked last =>
    have below := within.lt_pagesFor
    have few := asked.length_le
    unfold maxRetries at few ⊢
    omega
  | further asked goesOn proceeds ih =>
    obtain ⟨first, others⟩ := List.forall_mem_cons.1 truthful
    have later := ih (within.next first goesOn) others
    have few := asked.length_le
    rw [List.length_append]
    unfold maxRetries at few later ⊢
    omega

/-- Every request asks for one of the pages that the checks fill. -/
theorem Proceeds.question
    (proceeds : Proceeds client event applicationId listed done turns pages result)
    (within : Within total done listed) (truthful : ∀ page ∈ pages, page.totalCount.toNat ≤ total) :
    ∀ turn ∈ turns, ∃ page address, 1 ≤ page ∧ page ≤ pagesFor total ∧
      Address.read? (Client.pageRoute event applicationId page) = some address ∧
      turn.question = ⟨.get, client.base ++ address.target, none⟩ := by
  induction proceeds with
  | failed asked =>
    intro turn member
    obtain ⟨address, read, asks⟩ := asked.question turn member
    exact ⟨_, address, Nat.le_add_left 1 _, within.lt_pagesFor, read, asks⟩
  | ended asked last =>
    intro turn member
    obtain ⟨address, read, asks⟩ := asked.question turn member
    exact ⟨_, address, Nat.le_add_left 1 _, within.lt_pagesFor, read, asks⟩
  | further asked goesOn proceeds ih =>
    obtain ⟨first, others⟩ := List.forall_mem_cons.1 truthful
    intro turn member
    rcases List.mem_append.1 member with here | later
    · obtain ⟨address, read, asks⟩ := asked.question turn here
      exact ⟨_, address, Nat.le_add_left 1 _, within.lt_pagesFor, read, asks⟩
    · exact ih (within.next first goesOn) others turn later

/-- Whether the page at an index ends a listing: it is not full, or as many checks are listed with it as
it says that there are. -/
def EndsAt (listed : List ExistingCheck) (pages : List Page) (index : Nat) : Prop :=
  ∃ page, pages[index]? = some page ∧ (page.checks.length < Page.size ∨
    page.totalCount.toNat ≤ (listed ++ (pages.take (index + 1)).flatMap Page.checks).length)

theorem endsAt_zero {reply : Page} :
    EndsAt listed (reply :: pages) 0 ↔ reply.isLast (listed ++ reply.checks).length = true := by
  simp [EndsAt, Page.isLast]

theorem endsAt_succ {reply : Page} {index : Nat} :
    EndsAt listed (reply :: pages) (index + 1) ↔ EndsAt (listed ++ reply.checks) pages index := by
  simp [EndsAt]

/-- A page that does not end the listing stands before pages that do not. -/
theorem not_endsAt_cons {reply : Page} {count : Nat}
    (goesOn : ¬ reply.isLast (listed ++ reply.checks).length = true)
    (unfinished : ∀ index < count, ¬ EndsAt (listed ++ reply.checks) pages index) :
    ∀ index < count + 1, ¬ EndsAt listed (reply :: pages) index := by
  intro index below
  cases index with
  | zero =>
    rw [endsAt_zero]
    exact goesOn
  | succ index =>
    rw [endsAt_succ]
    exact unfinished index (Nat.lt_of_succ_lt_succ below)

/-- What is listed are the checks on all pages that were had, the last one of which is the first one that
ends the listing; or no page ended it, and the next one could not be had. -/
theorem Proceeds.outcome
    (proceeds : Proceeds client event applicationId listed done turns pages result) :
    (∃ last, pages.length = last + 1 ∧ EndsAt listed pages last ∧
        (∀ index < last, ¬ EndsAt listed pages index) ∧
        result = .ok (listed ++ pages.flatMap Page.checks)) ∨
      ∃ before asked fault, turns = before ++ asked ∧
        (∀ index < pages.length, ¬ EndsAt listed pages index) ∧
        Exchanged client.base .get (Client.pageRoute event applicationId (done + pages.length + 1)) none
          Page.decode asked (.error fault) ∧
        result = .error fault := by
  induction proceeds with
  | failed asked => exact .inr ⟨[], _, _, rfl, by simp, asked, rfl⟩
  | ended asked last => exact .inl ⟨0, rfl, endsAt_zero.2 last, by simp, by simp⟩
  | @further listed done first rest reply pages result asked goesOn proceeds ih =>
    rcases ih with ⟨last, count, ends, unfinished, same⟩ |
      ⟨before, asked', fault, rfl, unfinished, exchanged, same⟩
    · refine .inl ⟨last + 1, ?_, endsAt_succ.2 ends, not_endsAt_cons goesOn unfinished, ?_⟩
      · rw [List.length_cons, count]
      · rw [same, List.flatMap_cons, List.append_assoc]
    · have number : done + (reply :: pages).length + 1 = done + 1 + pages.length + 1 := by
        rw [List.length_cons]
        omega
      rw [number]
      exact .inr ⟨first ++ before, asked', fault, (List.append_assoc ..).symm,
        not_endsAt_cons goesOn unfinished, exchanged, same⟩

/-- A listing against any service that never says there are more than `total` checks asks for no more
pages than so many checks fill, each at most four times, and neither the number of a page nor the one
after it is beyond a word of 32 bits. It ends with the first page that is not full or reaches the number
of checks that the page says there are, and gives the checks on all pages that came back; it fails only if
a page could not be had in the end. -/
theorem listing_is_bounded {State : Type} (client : Client) (event : Event)
    (applicationId : Option UInt64) (service : Answerer Request Delivery State) (state : State)
    (total : Nat) (fits : (total + (Page.size - 1)) / Page.size < UInt32.size - 1) :
    let turns := (client.list event applicationId).turns service state
    let pages := turns.filterMap received?
    let result := ((client.list event applicationId).run service state).result
    (∀ page ∈ pages, page.totalCount.toNat ≤ total) →
    pages.length ≤ max 1 ((total + (Page.size - 1)) / Page.size) ∧
    turns.length ≤ (maxRetries + 1) * max 1 ((total + (Page.size - 1)) / Page.size) ∧
    (∀ turn ∈ turns, ∃ page address, 1 ≤ page ∧ page + 1 < UInt32.size ∧
      Address.read? (Client.pageRoute event applicationId page) = some address ∧
      turn.question = ⟨.get, client.base ++ address.target, none⟩) ∧
    ((∃ last, pages.length = last + 1 ∧ EndsAt [] pages last ∧
        (∀ index < last, ¬ EndsAt [] pages index) ∧
        result = .ok (pages.flatMap Page.checks)) ∨
      ∃ before asked fault, turns = before ++ asked ∧
        (∀ index < pages.length, ¬ EndsAt [] pages index) ∧
        Exchanged client.base .get (Client.pageRoute event applicationId (pages.length + 1)) none
          Page.decode asked (.error fault) ∧
        result = .error (.discovery s!"listing check runs on {event.text}: {fault.name}")) := by
  intro turns pages result truthful
  have begun : Within total 0 [] := ⟨Nat.le_refl 0, .inl rfl⟩
  have admits : (client.list event applicationId).Admits turns result :=
    Dialogue.admits_run service (client.list event applicationId) state
  obtain ⟨ended, listed, closing⟩ : ∃ ended,
      (client.listFrom event applicationId [] 1).Admits turns ended ∧ result = ended.mapError
        fun fault => .discovery s!"listing check runs on {event.text}: {fault.name}" := by
    obtain ⟨checks, listed, same⟩ | ⟨fault, listed, same⟩ := list_admits admits
    · exact ⟨_, listed, same⟩
    · exact ⟨_, listed, same⟩
  obtain ⟨had, proceeds⟩ := proceeds_of_listFrom_admits rfl listed
  have same : pages = had := proceeds.filterMap_received?
  rw [same] at truthful ⊢
  refine ⟨proceeds.length_add_le begun truthful, proceeds.turns_length_add_le begun truthful, ?_, ?_⟩
  · intro turn member
    obtain ⟨page, address, positive, below, read, asks⟩ := proceeds.question begun truthful turn member
    refine ⟨page, address, positive, ?_, read, asks⟩
    unfold pagesFor at below
    have words : UInt32.size = 4294967296 := rfl
    omega
  · rw [closing]
    rcases proceeds.outcome with ⟨last, count, ends, unfinished, rfl⟩ |
      ⟨before, asked, fault, split, unfinished, exchanged, rfl⟩
    · exact .inl ⟨last, count, ends, unfinished, rfl⟩
    · rw [Nat.zero_add] at exchanged
      exact .inr ⟨before, asked, fault, split, unfinished, exchanged, rfl⟩

/-- A service whose pages hold 150 checks each, half of them beyond what a page should hold, and which
says first that there are 250 checks and later that there are 201. -/
def overfull : Answerer Request Delivery Nat where
  answer _ moment := some ⟨200, some (pageDocument (if moment = 0 then 250 else 201)
    (List.replicate 150 ⟨4, some "ci", none, none⟩))⟩
  after _ moment := moment + 1

theorem readDelivery_overfull (request : Request) (moment : Nat) :
    readDelivery Page.decode (overfull.answer request moment) =
      .ok ⟨if moment = 0 then 250 else 201, List.replicate 150 ⟨4, some "ci", none, none⟩⟩ := by
  refine (readDelivery_of_isSuccess rfl rfl (pageShows_pageDocument _ _).decode).trans ?_
  rw [List.map_replicate]
  rfl

/-- A listing of more checks than the service ever says there are asks for no more pages than those
checks would fill, and gives all checks that came back. -/
theorem listing_is_bounded_for_overfull_pages :
    let client : Client := ⟨"token", Client.defaultAddress⟩
    let event : Event := ⟨"acme", "widgets", "0123abc", .push, none, 7⟩
    let turns := (client.list event none).turns overfull 0
    let pages := turns.filterMap received?
    (250 + (Page.size - 1)) / Page.size < UInt32.size - 1 ∧
      (∀ page ∈ pages, page.totalCount.toNat ≤ 250) ∧
      pages.length ≤ 3 ∧ turns.length ≤ 12 ∧
      ((client.list event none).run overfull 0).result = .ok (pages.flatMap Page.checks) := by
  intro client event turns pages
  have fits : (250 + (Page.size - 1)) / Page.size < UInt32.size - 1 := by decide
  have truthful : ∀ page ∈ pages, page.totalCount.toNat ≤ 250 := by
    intro page member
    obtain ⟨turn, asked, received⟩ := List.mem_filterMap.1 member
    obtain ⟨moment, answered⟩ := Dialogue.exists_state_of_mem_turns asked
    have read := received?_eq_some_iff.1 received
    rw [answered, readDelivery_overfull] at read
    obtain rfl := Except.ok.inj read
    dsimp only
    split <;> decide
  obtain ⟨few, short, -, ended⟩ := listing_is_bounded client event none overfull 0 250 fits truthful
  have three : pages.length ≤ 3 := few
  refine ⟨fits, truthful, three, short, ?_⟩
  rcases ended with ⟨last, count, ends, unfinished, listed⟩ | ⟨before, asked, fault, split, -, failed, -⟩
  · exact listed
  · -- Every page that is asked for has an address, and every answer is read.
    exfalso
    rcases failed.unread with unaddressed | ⟨turn, member, unread⟩
    · have addressed : ∀ done ≤ 3,
          (Address.read? (Client.pageRoute event none (done + 1))).isSome = true := by
        decide +kernel
      have read := addressed pages.length three
      rw [unaddressed] at read
      exact nomatch read
    · have asked : turn ∈ turns := by
        have same : turns = before ++ asked := split
        rw [same]
        exact List.mem_append_right before member
      obtain ⟨moment, answered⟩ := Dialogue.exists_state_of_mem_turns asked
      rw [answered, readDelivery_overfull] at unread
      exact nomatch unread

end CommitChecks.GitHub

import CommitChecks.Collaborator
import CommitChecks.GitHub.Body
import CommitChecks.GitHub.Exchange
import CommitChecks.GitHub.Reply

/-!
# The client of the hosting service

A client needs a token and the address of the service. It lists the checks of a commit page by page,
creates and updates checks, and writes commit statuses and comments. Every write is one exchange; a
listing ends with the first page that is not full or that reaches the number of checks the service
says there are, and a page that cannot be had makes the whole listing fail.
-/

namespace CommitChecks.GitHub

/-- A client. -/
structure Client where
  token : String
  address : Address
  deriving DecidableEq

namespace Client

/-- The address of the service when none is given. -/
def defaultAddress : Address :=
  ⟨some "https", "api.github.com", "/"⟩

/-- There is no token. -/
def missingToken : Failure :=
  .configuration "GitHub token is not set or empty"

/-- The address of the service is no address. -/
def invalidAddress (text : String) : Failure :=
  .configuration s!"Invalid GitHub API URL '{text}'"

/-- The client for a token and the address of a service. -/
def of (token : String) (address : Option String) : Except Failure Client :=
  if token = "" then .error missingToken
  else
    match address with
    | none => .ok ⟨token, defaultAddress⟩
    | some text =>
      match Address.read? text with
      | some address => .ok ⟨token, address⟩
      | none => .error (invalidAddress text)

/-- What is logged when the environment has no token. -/
def noTokenRecord : Log.Record :=
  .event .debug "GITHUB_TOKEN is not set, no hosting service configured" []

/-- The client that an environment asks for, if it asks for one, and what is logged. Variables that
are empty count as absent. -/
def ofEnvironment (token address : Option String) :
    Except Failure (Option Client) × List Log.Record :=
  match token.filter (· ≠ "") with
  | none => (.ok none, [noTokenRecord])
  | some token => ((of token (address.filter (· ≠ ""))).map some, [])

/-- What all targets on the service start with: the path of its address without a slash at the
end. -/
def base (client : Client) : String :=
  let path := client.address.target.toList.takeWhile (· ≠ '?')
  String.ofList (path.reverse.dropWhile (· = '/')).reverse

/-- The route of the repository of an event. -/
def repositoryRoute (event : Event) : String :=
  s!"/repos/{event.organization}/{event.repository}"

/-- The query that asks for a page, of the checks of one application if one is given. -/
def pageQuery (applicationId : Option UInt64) (page : Nat) : String :=
  let filter := match applicationId with
    | some id => s!"app_id={id.toNat}&"
    | none => ""
  s!"{filter}per_page={Page.size}&page={page}"

/-- The route of a page of the checks of a commit. A commit that has a query already is given one
more part of it. -/
def pageRoute (event : Event) (applicationId : Option UInt64) (page : Nat) : String :=
  let route := s!"{repositoryRoute event}/commits/{event.sha}/check-runs"
  let separator := if route.toList.contains '?' then "&" else "?"
  route ++ separator ++ pageQuery applicationId page

/-- Lists checks from a page on, after those that were listed before. Every page but the last one is
full and leaves the number of checks that the service says there are out of reach, so there is a last
one. -/
def listFrom (client : Client) (event : Event) (applicationId : Option UInt64)
    (listed : List ExistingCheck) (page : Nat) :
    Correspondence (Except Fault (List ExistingCheck)) :=
  (exchange client.base .get (pageRoute event applicationId page) none Page.decode).andThen fun
    | .error fault => .done (.error fault)
    | .ok reply =>
      if last : reply.isLast (listed ++ reply.checks).length then .done (.ok (listed ++ reply.checks))
      else listFrom client event applicationId (listed ++ reply.checks) (page + 1)
termination_by UInt64.size - listed.length
decreasing_by
  obtain ⟨full, below⟩ := reply.of_not_isLast last
  rw [List.length_append] at below ⊢
  unfold Page.size at full
  omega

/-- Lists the checks of the commit of an event. -/
def list (client : Client) (event : Event) (applicationId : Option UInt64) :
    Correspondence (Except Failure (List ExistingCheck)) :=
  (listFrom client event applicationId [] 1).andThen fun
    | .error fault =>
      .done (.error (.discovery s!"listing check runs on {event.text}: {fault.name}"))
    | .ok checks =>
      .note (.event .debug "Listed check runs" [("count", checks.length.repr)])
        (.done (.ok checks))

/-- Writes something, where a fault is a failure of the operation. -/
def write {α : Type} (client : Client) (operation : String) (method : Method) (route : String)
    (body : Value) (decode : Decoder α) : Correspondence (Except Failure α) :=
  (exchange client.base method route (some body) decode).map
    (·.mapError fun fault => .submission operation fault.name)

/-- Creates a check: its identifier. -/
def create (client : Client) (event : Event) (check : NewCheck) :
    Correspondence (Except Failure UInt64) :=
  client.write "Create check run" .post s!"{repositoryRoute event}/check-runs" (createBody check)
    decodeCheckId

/-- Gives new contents to a check. -/
def update (client : Client) (event : Event) (id : UInt64) (update : CheckUpdate) :
    Correspondence (Except Failure Unit) :=
  .noteAll (truncation update.output.annotations)
    ((client.write "Update check run" .patch s!"{repositoryRoute event}/check-runs/{id.toNat}"
      (updateBody update) decodeCheckId).andThen fun
        | .error failure => .done (.error failure)
        | .ok _ =>
          .note (.event .info "Updated check run"
            [("check_run_id", id.toNat.repr), ("status", update.status.name)]) (.done (.ok ())))

/-- Gives a status to the commit of an event. -/
def status (client : Client) (event : Event) (status : CommitStatus) :
    Correspondence (Except Failure Unit) :=
  client.write "Create commit status" .post s!"{repositoryRoute event}/statuses/{event.sha}"
    (statusBody status) decodeAny

/-- Comments on a pull request. -/
def comment (client : Client) (event : Event) (number : UInt64) (text : String) :
    Correspondence (Except Failure Unit) :=
  (client.write "Create pull request comment" .post
    s!"{repositoryRoute event}/issues/{number.toNat}/comments" (commentBody text)
    decodeComment).andThen fun
      | .error failure => .done (.error failure)
      | .ok url => .note (.event .info "Posted pull request comment" [("url", url)])
        (.done (.ok ()))

/-- How the client makes a call, if the call is one on the hosting service. -/
def perform? (client : Client) : (call : Call) → Option (Correspondence call.Reply)
  | .list event applicationId => some (client.list event applicationId)
  | .create event check => some (client.create event check)
  | .update event id update => some (client.update event id update)
  | .status event status => some (client.status event status)
  | .comment event number text => some (client.comment event number text)
  | .patch _ _ => none
  | .logs _ _ => none

variable {Service Others : Type}

/-- Collaborators of which the hosting service is reached through the client; the other ones answer
for themselves. -/
def answerer (client : Client) (service : Answerer Request Delivery Service)
    (others : Answerer Call Call.Reply Others) :
    Answerer Call Call.Reply (Service × Others) where
  answer call state :=
    match client.perform? call with
    | some correspondence => (correspondence.run service state.1).result
    | none => others.answer call state.2
  records call state :=
    match client.perform? call with
    | some correspondence => (correspondence.run service state.1).records
    | none => others.records call state.2
  after call state :=
    match client.perform? call with
    | some correspondence => ((correspondence.run service state.1).state, state.2)
    | none => (state.1, others.after call state.2)

end Client

/-- A service that cannot be reached. -/
def unreachable : Answerer Request Delivery Unit where
  answer _ _ := none

end CommitChecks.GitHub

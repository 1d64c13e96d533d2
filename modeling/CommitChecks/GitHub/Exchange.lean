import CommitChecks.Address
import CommitChecks.Dialogue
import CommitChecks.Document.Decoder

/-!
# Exchanges with the hosting service

An exchange sends a request and waits for a response. A request whose route is not an address is
never sent. A response that reports trouble on the side of the service makes the client send the
same request again, a limited number of times; a successful response has to hold the document that
was asked for, and any other response should hold a message.
-/

namespace CommitChecks.GitHub

/-- What a request does. -/
inductive Method where
  | get
  | post
  | patch
  deriving DecidableEq, Repr

/-- A request. -/
structure Request where
  method : Method
  target : String
  body : Option Value

/-- A response; one whose body is not JSON has no document. -/
structure Response where
  status : Nat
  document : Option Value

namespace Response

/-- Whether the request was granted. -/
def isSuccess (response : Response) : Bool :=
  200 ≤ response.status && response.status < 300

/-- Whether the same request may be granted later: the service failed, or is asked too often. -/
def isTransient (response : Response) : Bool :=
  (500 ≤ response.status && response.status < 600) || response.status = 429

/-- Whether the response holds a message. -/
def hasMessage (response : Response) : Bool :=
  match response.document.bind fun document => document.get? "message" with
  | some (.str _) => true
  | _ => false

end Response

/-- What comes back for a request: a response, or nothing if the service cannot be reached. -/
abbrev Delivery (_ : Request) : Type :=
  Option Response

/-- A dialogue with the hosting service. -/
abbrev Correspondence (Result : Type) : Type :=
  Dialogue Request Delivery Result

/-- Why an exchange gave nothing. -/
inductive Fault where
  | address
  | unreachable
  | refused
  | unreadableRefusal
  | unreadableReply
  deriving DecidableEq, Repr

/-- The name of a fault. -/
def Fault.name : Fault → String
  | address => "Uri"
  | unreachable => "Service Error"
  | refused => "GitHub"
  | unreadableRefusal => "Serde Error"
  | unreadableReply => "JSON Error"

/-- How often a request is sent again. -/
def maxRetries : Nat := 3

/-- Sends a request, and sends it again up to `retries` times while it meets trouble that may
pass. -/
def deliver (request : Request) : (retries : Nat) → Correspondence (Option Response)
  | 0 => .ask request .done
  | retries + 1 => .ask request fun delivery =>
    if delivery.all Response.isTransient then deliver request retries else .done delivery

/-- Reads what came back. -/
def readDelivery {α : Type} (decode : Decoder α) (delivery : Option Response) :
    Except Fault α :=
  match delivery with
  | none => .error .unreachable
  | some response =>
    if response.isSuccess then
      match response.document.map (decode .json) with
      | some (.ok reply) => .ok reply
      | _ => .error .unreadableReply
    else if response.hasMessage then .error .refused
    else .error .unreadableRefusal

/-- Makes an exchange with a service whose targets start with `base`. -/
def exchange {α : Type} (base : String) (method : Method) (route : String) (body : Option Value)
    (decode : Decoder α) : Correspondence (Except Fault α) :=
  match Address.read? route with
  | none => .done (.error .address)
  | some address =>
    (deliver ⟨method, base ++ address.target, body⟩ maxRetries).map (readDelivery decode)

end CommitChecks.GitHub

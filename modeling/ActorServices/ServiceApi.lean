import ActorServices.ClientIp
import ActorServices.LinkApi
import ActorServices.ServiceEnvironment

set_option autoImplicit false

/- The HTTP frame that both services have in identical copies: requests and responses, what a
handler awaits besides its use case, the rate limit around the router, and all of it over the
state that the requests of a service share. -/
namespace ActorServices.Api

open Environment
open RateLimit (IpAddr RateLimiter HeaderMap SocketAddr clientIp)
open UrlShortener (Method AppError)

/-- A value in the JSON of a response. -/
inductive Scalar
  | null
  | bool (value : Bool)
  | number (value : Int)
  | text (value : String)
  deriving DecidableEq, Repr

inductive Body
  | empty
  | text (value : String)
  | json (fields : List (String × Scalar))
  deriving DecidableEq, Repr

structure Response where
  status : Nat
  headers : HeaderMap
  body : Body
  deriving DecidableEq, Repr

structure Request where
  method : Method
  path : String
  headers : HeaderMap
  conn : Option SocketAddr
  body : List UInt8
  deriving DecidableEq, Repr

def contentType (value : String) : HeaderMap := [("content-type", Utf8.encode value.toList)]

/-- `Json` of an object. -/
def json (status : Nat) (fields : List (String × Scalar)) : Response :=
  ⟨status, contentType "application/json", .json fields⟩

/-- An `Option` in a DTO. -/
def nullable {α : Type} (scalar : α → Scalar) : Option α → Scalar
  | some value => scalar value
  | none => .null

/-- The text of an error; the cause of an internal one is not in it. -/
def display : AppError → String
  | .notFound => "not found"
  | .validation text => text
  | .conflict text => text
  | .internal _ => "internal error"

def intoResponse (err : AppError) : Response := json err.status [("error", .text (display err))]

/-- No body goes out in answer to `HEAD`. -/
def Response.answering (response : Response) : Method → Response
  | .head => { response with body := .empty }
  | _ => response

@[simp] theorem answering_status (response : Response) (method : Method) :
    (response.answering method).status = response.status := by
  cases method <;> rfl

/-- The answers that the router gives by itself. -/
structure Framework where
  notFound : Response
  methodNotAllowed : Response
  badRequest : Response

/-- What a handler awaits: an await of its use case, the lock of the rate limiter, the ping of
the repository, and the two uses of the counter in `Metrics`. -/
inductive ApiOp (K V : Type)
  | useCase (op : Op K V)
  | check (ip : IpAddr)
  | ping
  | count
  | counted

@[reducible] def ApiOp.Reply {K V : Type} : ApiOp K V → Type
  | .useCase op => op.Reply
  | .check _ => Bool
  | .ping => Except RepoError Unit
  | .count => Unit
  | .counted => UInt64

abbrev Handler (K V α : Type) : Type := Proc (ApiOp K V) ApiOp.Reply α

section Handlers

variable {K V α : Type}

/-- A call of the service. -/
def call (program : UseCase K V α) : Handler K V α :=
  program.expand fun op => .call (.useCase op) .ret

abbrev check (ip : IpAddr) : Handler K V Bool := .call (.check ip) .ret
abbrev ping : Handler K V (Except RepoError Unit) := .call .ping .ret
abbrev count : Handler K V Unit := .call .count .ret
abbrev counted : Handler K V UInt64 := .call .counted .ret

def health : Handler K V Response := return json 200 [("status", .text "ok")]

def ready : Handler K V Response := do
  match ← ping with
  | .ok () => return json 200 [("status", .text "ready")]
  | .error _ => return json 503 [("status", .text "unavailable")]

/-- `metrics`, under the name that the service gives its counter. -/
def metrics (name : String) : Handler K V Response := do
  let total ← counted
  return json 200 [(name, .number total.toNat)]

/-- The layer `rate_limit` around the router. -/
def rateLimit (trustProxy : Bool) (request : Request) (next : Handler K V Response) :
    Handler K V Response := do
  if ← check (clientIp request.headers request.conn trustProxy) then next
  else return json 429 [("error", .text "rate limit exceeded")]

end Handlers

/-- `AppState`, without what is fixed. -/
structure AppState (K V : Type) where
  stores : Shared K V
  limiter : RateLimiter
  counter : UInt64

/-- How an await turns out. A check has read the clock at some time before. -/
inductive ApiChoice
  | stores (choice : Choice)
  | sampled (now : ℚ)

inductive ApiEvent (K : Type)
  | stores (event : Environment.Event K)
  | sweep (now : ℚ)

variable {K V : Type} [DecidableEq K]

def AppState.start (rps burst : UInt32) : AppState K V := ⟨.empty, RateLimit.new rps burst, 0⟩

def perform (entity : Entity K V) (state : AppState K V) (memory : Memory V) (op : ApiOp K V)
    (choice : ApiChoice) : Option (op.Reply × Memory V × AppState K V) :=
  match op, choice with
  | .useCase op, .stores choice =>
      (Environment.perform entity state.stores memory op choice).map fun done =>
        (done.1, done.2.1, { state with stores := done.2.2 })
  | .check ip, .sampled now =>
      let checked := state.limiter.check ip now
      some (checked.1, memory, { state with limiter := checked.2 })
  | .ping, .stores .done => some (.ok (), memory, state)
  | .ping, .stores (.failed cause) => some (.error (.backend cause), memory, state)
  | .count, .stores .done => some ((), memory, { state with counter := state.counter + 1 })
  | .counted, .stores .done => some (state.counter, memory, state)
  | _, _ => none

def happen (entity : Entity K V) (state : AppState K V) : ApiEvent K → Option (AppState K V)
  | .stores event => (Environment.happen entity state.stores event).map fun stores =>
      { state with stores }
  | .sweep now => some { state with limiter := state.limiter.sweep now }

/-- The surroundings of the handlers of one service. -/
def environment (entity : Entity K V) : Interleave.Environment (ApiOp K V) ApiOp.Reply
    (AppState K V) (Memory V) ApiChoice (ApiEvent K) where
  fresh := .none
  perform := perform entity
  happen := happen entity

abbrev ApiConfig (K V : Type) : Type :=
  Interleave.Config (ApiOp K V) ApiOp.Reply Response (AppState K V) (Memory V)

abbrev ApiLabel (K : Type) : Type := Interleave.Label ApiChoice (ApiEvent K)

/-- A run of the given requests from a state, the `i`-th made by caller `i`. -/
abbrev serve (entity : Entity K V) (answer : Request → Handler K V Response)
    (requests : Nat → Request) (state : AppState K V) (labels : List (ApiLabel K)) :
    Option (ApiConfig K V) :=
  Interleave.run (environment entity) (fun caller => answer (requests caller)) (.initial state)
    labels

/-- The caller has got the response. -/
def Responded (config : ApiConfig K V) (caller : Nat) (response : Response) : Prop :=
  ∃ memory, config.Returned caller response memory

end ActorServices.Api

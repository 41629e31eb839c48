import ActorServices.HttpHead
import ActorServices.Trace

set_option autoImplicit false

/- `handle_connection`: the loop that reads requests off one connection, has them
routed and writes the responses. -/
namespace ActorServices.Connection

open Http

/-- The size of the buffer that one socket read fills. -/
def readSize : Nat := 8192

/-- The arguments of `build_response`. -/
structure Response where
  status : UInt16
  reason : String
  body : String
  keepAlive : Bool
  writeBody : Bool
  deriving DecidableEq, Repr

def Response.bytes (response : Response) : List UInt8 :=
  buildResponse response.status response.reason response.body response.keepAlive
    response.writeBody

/-- What `respond` writes before the connection is closed. -/
def refusal (status : UInt16) (reason body : String) : Response :=
  ⟨status, reason, body, false, true⟩

def headerTooLarge : Response :=
  refusal 431 "Request Header Fields Too Large" "header too large\n"
def unsupportedFraming : Response := refusal 501 "Not Implemented" "unsupported framing\n"
def badRequest : Response := refusal 400 "Bad Request" "bad request\n"
def incompleteRequest : Response := refusal 400 "Bad Request" "incomplete request\n"
def payloadTooLarge : Response := refusal 413 "Payload Too Large" "payload too large\n"
def requestTimeout : Response := refusal 408 "Request Timeout" "request timeout\n"

/-- What `route` returns: status, reason and body. -/
structure Reply where
  status : UInt16
  reason : String
  body : String
  deriving DecidableEq, Repr

def Reply.response (reply : Reply) (head : RequestHead) (keepAlive : Bool) : Response :=
  ⟨reply.status, reply.reason, reply.body, keepAlive, head.method != "HEAD"⟩

/-- Where the connection is. `parse`, `idle`, `body` and `complete` go on by
themselves; the others await a read, `route` or a write. `total` is the length
of the request with its body, a sum that `usize` is taken to hold. -/
inductive Pc
  | parse
  | idle
  | readIdle
  | readHead
  | body (head : RequestHead) (total : Nat)
  | readBody (head : RequestHead) (total : Nat)
  | complete (head : RequestHead) (total : Nat)
  | route (head : RequestHead) (total : Nat) (keepAlive : Bool)
  | reply (response : Response) (total : Nat)
  | refuse (response : Response)
  | closed
  deriving DecidableEq, Repr

/-- `routed` lists the heads that were routed and `written` the responses that
were written; no step reads either. -/
structure State where
  buf : List UInt8
  pc : Pc
  flag : Bool
  flagClosed : Bool
  routed : List RequestHead
  written : List Response
  deriving DecidableEq, Repr

/-- The bytes on the wire. -/
def State.wire (state : State) : List UInt8 := state.written.flatMap Response.bytes

def State.start : State where
  buf := []
  pc := .parse
  flag := false
  flagClosed := false
  routed := []
  written := []

inductive Event
  | shutdown
  | closeFlag
  | turn
  | bytes (chunk : List UInt8)
  | eof
  | timeout
  | readError
  | interrupted
  | routed (reply : Reply)
  | written
  | writeError
  deriving DecidableEq, Repr

section Operations

variable (maxBodyBytes : Nat) (state : State)

/-- `match parse_head(&buf)`, with the test of the body limit. -/
def State.parse : State :=
  match parseHead state.buf with
  | .ok (head, headLen) =>
      if maxBodyBytes < head.contentLength then { state with pc := .refuse payloadTooLarge }
      else { state with pc := .body head (headLen + head.contentLength) }
  | .error .incomplete => { state with pc := if state.buf.isEmpty then .idle else .readHead }
  | .error .headTooLarge => { state with pc := .refuse headerTooLarge }
  | .error .unsupported => { state with pc := .refuse unsupportedFraming }
  | .error .malformed => { state with pc := .refuse badRequest }

/-- The connection goes on up to its next await or its next look at the flag. -/
def State.turn : Option State :=
  match state.pc with
  | .parse => some (state.parse maxBodyBytes)
  | .idle => some { state with pc := if state.flag then .closed else .readIdle }
  | .body head total =>
      some { state with
        pc := if state.buf.length < total then .readBody head total else .complete head total }
  | .complete head total =>
      some { state with
        pc := .route head total (head.keepAlive && !state.flag)
        routed := state.routed ++ [head] }
  | _ => none

/-- A read returns bytes. -/
def State.bytes (chunk : List UInt8) : Option State :=
  if chunk = [] ∨ readSize < chunk.length then none
  else
    match state.pc with
    | .readIdle => some { state with buf := state.buf ++ chunk, pc := .parse }
    | .readHead => some { state with buf := state.buf ++ chunk, pc := .parse }
    | .readBody head total => some { state with buf := state.buf ++ chunk, pc := .body head total }
    | _ => none

def State.eof : Option State :=
  match state.pc with
  | .readIdle => some { state with pc := .closed }
  | .readHead => some { state with pc := .refuse incompleteRequest }
  | .readBody _ _ => some { state with pc := .closed }
  | _ => none

/-- The idle time, or the deadline of the request, is over. -/
def State.timeout : Option State :=
  match state.pc with
  | .readIdle => some { state with pc := .closed }
  | .readHead => some { state with pc := .refuse requestTimeout }
  | .readBody _ _ => some { state with pc := .refuse requestTimeout }
  | _ => none

def State.readError : Option State :=
  match state.pc with
  | .readIdle => some { state with pc := .closed }
  | .readHead => some { state with pc := .closed }
  | .readBody _ _ => some { state with pc := .closed }
  | _ => none

/-- `shutdown.changed()` in an idle read. -/
def State.interrupted : Option State :=
  if state.pc = .readIdle ∧ (state.flag ∨ state.flagClosed) then
    some { state with pc := .closed }
  else none

def State.replied (reply : Reply) : Option State :=
  match state.pc with
  | .route head total keepAlive =>
      some { state with pc := .reply (reply.response head keepAlive) total }
  | _ => none

/-- `write_all` succeeds; what is left in the buffer is the next request's. -/
def State.wrote : Option State :=
  match state.pc with
  | .reply response total =>
      some { state with
        buf := state.buf.drop total
        pc := if response.keepAlive then .parse else .closed
        written := state.written ++ [response] }
  | .refuse response =>
      some { state with pc := .closed, written := state.written ++ [response] }
  | _ => none

def State.writeError : Option State :=
  match state.pc with
  | .reply _ _ => some { state with pc := .closed }
  | .refuse _ => some { state with pc := .closed }
  | _ => none

def step : Event → Option State
  | .shutdown => some { state with flag := true }
  | .closeFlag => some { state with flagClosed := true }
  | .turn => state.turn maxBodyBytes
  | .bytes chunk => state.bytes chunk
  | .eof => state.eof
  | .timeout => state.timeout
  | .readError => state.readError
  | .interrupted => state.interrupted
  | .routed reply => state.replied reply
  | .written => state.wrote
  | .writeError => state.writeError

end Operations

end ActorServices.Connection

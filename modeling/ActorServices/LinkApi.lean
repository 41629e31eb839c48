import Mathlib.Data.List.DropRight
import ActorServices.LinkCreate
import ActorServices.Routing

set_option autoImplicit false

/- The HTTP layer of `url-shortener`: its routes, the response to a created link, and the
redirect handler. -/
namespace ActorServices.UrlShortener

open Routing

inductive Endpoint
  | health
  | ready
  | metrics
  | links
  | link
  | redirect
  deriving DecidableEq, Repr

/-- `router`. -/
def routes : List (Route Endpoint) :=
  [⟨[.static "health"], .health⟩,
    ⟨[.static "health", .static "ready"], .ready⟩,
    ⟨[.static "metrics"], .metrics⟩,
    ⟨[.static "api", .static "links"], .links⟩,
    ⟨[.static "api", .static "links", .param], .link⟩,
    ⟨[.param], .redirect⟩]

inductive Method
  | get
  | head
  | post
  | delete
  deriving DecidableEq, Repr

/-- The handler that a request goes to, with its path parameter, or the answer without one. -/
inductive Dispatched
  | health
  | ready
  | metrics
  | createLink
  | getLink (code : String)
  | deleteLink (code : String)
  | redirect (code : String)
  | badRequest
  | methodNotAllowed
  | notFound
  deriving DecidableEq, Repr

/-- The extractor `Path<String>`. -/
def withParam (values : List String) (handler : String → Dispatched) : Dispatched :=
  match values with
  | [part] =>
      match paramText part with
      | some text => handler text
      | none => .badRequest
  | _ => .notFound

/-- A `GET` route answers `HEAD`, too. -/
def dispatch (method : Method) (path : String) : Dispatched :=
  match lookup routes path with
  | none => .notFound
  | some (endpoint, values) =>
      match endpoint, method with
      | .health, .get | .health, .head => .health
      | .ready, .get | .ready, .head => .ready
      | .metrics, .get | .metrics, .head => .metrics
      | .links, .post => .createLink
      | .link, .get | .link, .head => withParam values .getLink
      | .link, .delete => withParam values .deleteLink
      | .redirect, .get | .redirect, .head => withParam values .redirect
      | _, _ => .methodNotAllowed

structure CreateLinkResponse where
  code : String
  shortUrl : String
  target : String
  createdAt : Int
  expiresAt : Option Int
  deriving DecidableEq, Repr

/-- `trim_end_matches('/')`. -/
def trimEndSlashes (text : String) : String :=
  .ofList (text.toList.rdropWhile (· == '/'))

def CreateLinkResponse.fromLink (link : Link) (baseUrl : String) : CreateLinkResponse where
  code := link.code.value
  shortUrl := trimEndSlashes baseUrl ++ "/" ++ link.code.value
  target := link.target.value
  createdAt := link.createdAt
  expiresAt := link.expiresAt

inductive AppError
  | notFound
  | validation (text : String)
  | conflict (text : String)
  | internal (cause : String)
  deriving DecidableEq, Repr

def AppError.status : AppError → Nat
  | .notFound => 404
  | .validation _ => 400
  | .conflict _ => 409
  | .internal _ => 500

def ValidationError.text : ValidationError → String
  | .codeLength => "short code must be between 1 and 32 characters"
  | .codeCharset => "short code must contain only ASCII letters and digits"
  | .urlTooLong => "url must be 2048 bytes or fewer"
  | .urlInvalid => "url must be a valid absolute URL with a host"
  | .urlScheme => "url scheme must be http or https"

def AppError.fromService : ServiceError → AppError
  | .validation err => .validation err.text
  | .notFound => .notFound
  | .conflict => .conflict "short code already in use"
  | .blocked => .validation "target host is not allowed"
  | .backend cause => .internal cause

/-- A byte that a header value may have. -/
def headerByte (byte : UInt8) : Bool := byte == 9 || (32 ≤ byte && byte != 127)

/-- `HeaderValue::from_str`. -/
def headerValue (text : String) : Option (List UInt8) :=
  if (Utf8.encode text.toList).all headerByte then some (Utf8.encode text.toList) else none

/-- What the redirect handler answers, and how often it has counted a redirect. -/
structure Redirect where
  answer : Except AppError (List UInt8)
  counted : Nat
  deriving DecidableEq

/-- The status of the response; `Ok` is a `302` with this `Location`. -/
def Redirect.status (redirect : Redirect) : Nat :=
  match redirect.answer with
  | .ok _ => 302
  | .error err => err.status

def redirect (raw : String) : Service Redirect := do
  match ← resolve raw with
  | .error err => return ⟨.error (.fromService err), 0⟩
  | .ok target =>
      match headerValue target.value with
      | none => return ⟨.error (.internal "failed to parse header value"), 1⟩
      | some location => return ⟨.ok location, 1⟩

end ActorServices.UrlShortener

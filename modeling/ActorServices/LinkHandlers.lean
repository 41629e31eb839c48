import ActorServices.LinkConcurrent
import ActorServices.ServiceApi

set_option autoImplicit false

namespace ActorServices.UrlShortener

open Api
open RateLimit (HeaderMap)

structure CreateLinkRequest where
  url : String
  requested : Option String
  ttlSeconds : Option Nat
  deriving DecidableEq, Repr

def CreateLinkResponse.fields (response : CreateLinkResponse) : List (String × Scalar) :=
  [("code", .text response.code), ("short_url", .text response.shortUrl),
    ("target", .text response.target), ("created_at", .number response.createdAt),
    ("expires_at", nullable .number response.expiresAt)]

structure LinkResponse where
  code : String
  target : String
  createdAt : Int
  hits : Int
  expiresAt : Option Int
  deriving DecidableEq, Repr

def LinkResponse.fromLink (link : Link) : LinkResponse where
  code := link.code.value
  target := link.target.value
  createdAt := link.createdAt
  hits := link.hits
  expiresAt := link.expiresAt

def LinkResponse.fields (response : LinkResponse) : List (String × Scalar) :=
  [("code", .text response.code), ("target", .text response.target),
    ("created_at", .number response.createdAt), ("hits", .number response.hits),
    ("expires_at", nullable .number response.expiresAt)]

/-- What the router is built with: the configuration, the settings of the service, the extractor
`Json<CreateLinkRequest>` with its rejections, and what the framework answers by itself. -/
structure App where
  publicBaseUrl : String
  trustProxy : Bool
  settings : Settings
  extract : HeaderMap → List UInt8 → Except Response CreateLinkRequest
  framework : Framework

abbrev LinkHandler : Type := Handler ShortCode Link Response

namespace App

variable (app : App)

def createLink (request : Request) : LinkHandler :=
  match app.extract request.headers request.body with
  | .error rejection => return rejection
  | .ok req => do
      match ← call (create app.settings req.url req.requested req.ttlSeconds) with
      | .error err => return intoResponse (AppError.fromService err)
      | .ok link => return json 201 (CreateLinkResponse.fromLink link app.publicBaseUrl).fields

/-- `redirect`, with its use of the counter as an await. -/
def follow (code : String) : LinkHandler := do
  match ← call (resolve code) with
  | .error err => return intoResponse (AppError.fromService err)
  | .ok target =>
      count
      match headerValue target.value with
      | none => return intoResponse (.internal "failed to parse header value")
      | some location => return ⟨302, [("location", location)], .empty⟩

def getLink (code : String) : LinkHandler := do
  match ← call (get code) with
  | .error err => return intoResponse (AppError.fromService err)
  | .ok link => return json 200 (LinkResponse.fromLink link).fields

def deleteLink (code : String) : LinkHandler := do
  match ← call (delete code) with
  | .error err => return intoResponse (AppError.fromService err)
  | .ok () => return ⟨204, [], .empty⟩

def route (request : Request) : LinkHandler :=
  match dispatch request.method request.path with
  | .health => Api.health
  | .ready => Api.ready
  | .metrics => Api.metrics "redirects"
  | .createLink => app.createLink request
  | .getLink code => getLink code
  | .deleteLink code => deleteLink code
  | .redirect code => follow code
  | .badRequest => return app.framework.badRequest
  | .methodNotAllowed => return app.framework.methodNotAllowed
  | .notFound => return app.framework.notFound

/-- The answer to a request. -/
def answer (request : Request) : LinkHandler :=
  (fun response => response.answering request.method) <$>
    rateLimit app.trustProxy request (app.route request)

end App

end ActorServices.UrlShortener

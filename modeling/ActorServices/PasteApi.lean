import ActorServices.PasteConcurrent
import ActorServices.ServiceApi

set_option autoImplicit false

namespace ActorServices.Pastebin

open Api Routing
open RateLimit (HeaderMap)
open UrlShortener (Method AppError trimEndSlashes)

inductive Endpoint
  | index
  | appJs
  | qrcodeJs
  | health
  | ready
  | metrics
  | pastes
  | paste
  | raw
  deriving DecidableEq, Repr

/-- `router`. -/
def routes : List (Route Endpoint) :=
  [⟨[.static ""], .index⟩,
    ⟨[.static "app.js"], .appJs⟩,
    ⟨[.static "vendor", .static "qrcode.js"], .qrcodeJs⟩,
    ⟨[.static "health"], .health⟩,
    ⟨[.static "health", .static "ready"], .ready⟩,
    ⟨[.static "metrics"], .metrics⟩,
    ⟨[.static "api", .static "pastes"], .pastes⟩,
    ⟨[.static "api", .static "pastes", .param], .paste⟩,
    ⟨[.static "raw", .param], .raw⟩]

/-- The handler that a request goes to, with its path parameter, or the answer without one. -/
inductive Dispatched
  | index
  | appJs
  | qrcodeJs
  | health
  | ready
  | metrics
  | createPaste
  | getPaste (id : String)
  | rawPaste (id : String)
  | deletePaste (id : String)
  | badRequest
  | methodNotAllowed
  | notFound
  deriving DecidableEq, Repr

/-- The extractor `Path<String>`. -/
def withParam (values : List String) (handler : String → Dispatched) : Dispatched :=
  match values with
  | [part] =>
      match paramText part with
      | some text => handler text
      | none => .badRequest
  | _ => .notFound

/-- A `GET` route answers `HEAD`, too. -/
def dispatch (method : Method) (path : String) : Dispatched :=
  match lookup routes path with
  | none => .notFound
  | some (endpoint, values) =>
      match endpoint, method with
      | .index, .get | .index, .head => .index
      | .appJs, .get | .appJs, .head => .appJs
      | .qrcodeJs, .get | .qrcodeJs, .head => .qrcodeJs
      | .health, .get | .health, .head => .health
      | .ready, .get | .ready, .head => .ready
      | .metrics, .get | .metrics, .head => .metrics
      | .pastes, .post => .createPaste
      | .paste, .get | .paste, .head => withParam values .getPaste
      | .paste, .delete => withParam values .deletePaste
      | .raw, .get | .raw, .head => withParam values .rawPaste
      | _, _ => .methodNotAllowed

structure CreatePasteRequest where
  content : String
  syntaxHint : Option String
  ttlSeconds : Option Nat
  oneShot : Bool
  deriving DecidableEq, Repr

structure CreatePasteResponse where
  id : String
  url : String
  createdAt : Int
  expiresAt : Option Int
  oneShot : Bool
  deriving DecidableEq, Repr

def CreatePasteResponse.fromPaste (paste : Paste) (baseUrl : String) : CreatePasteResponse where
  id := paste.id.value
  url := trimEndSlashes baseUrl ++ "/api/pastes/" ++ paste.id.value
  createdAt := paste.createdAt
  expiresAt := paste.expiresAt
  oneShot := paste.oneShot

def CreatePasteResponse.fields (response : CreatePasteResponse) : List (String × Scalar) :=
  [("id", .text response.id), ("url", .text response.url),
    ("created_at", .number response.createdAt),
    ("expires_at", nullable .number response.expiresAt), ("one_shot", .bool response.oneShot)]

structure PasteResponse where
  id : String
  content : String
  syntaxHint : Option String
  createdAt : Int
  expiresAt : Option Int
  oneShot : Bool
  views : Int
  deriving DecidableEq, Repr

def PasteResponse.fromPaste (paste : Paste) : PasteResponse where
  id := paste.id.value
  content := paste.content.value
  syntaxHint := paste.syntaxHint
  createdAt := paste.createdAt
  expiresAt := paste.expiresAt
  oneShot := paste.oneShot
  views := paste.views

def PasteResponse.fields (response : PasteResponse) : List (String × Scalar) :=
  [("id", .text response.id), ("content", .text response.content),
    ("syntax", nullable .text response.syntaxHint), ("created_at", .number response.createdAt),
    ("expires_at", nullable .number response.expiresAt), ("one_shot", .bool response.oneShot),
    ("views", .number response.views)]

def ValidationError.text : ValidationError → String
  | .idLength => "paste id must be between 1 and 32 characters"
  | .idCharset => "paste id must contain only ASCII letters and digits"
  | .contentEmpty => "paste content must not be empty"
  | .contentTooLarge => "paste content must be 1000000 bytes or fewer"

def AppError.fromService : ServiceError → AppError
  | .validation err => .validation err.text
  | .notFound => .notFound
  | .conflict => .conflict "paste id already in use"
  | .backend cause => .internal cause

/-- What the router is built with: the configuration, the three static files, the JSON of the
cache, the extractor `Json<CreatePasteRequest>` with its rejections, and what the framework
answers by itself. -/
structure App where
  publicBaseUrl : String
  trustProxy : Bool
  indexHtml : String
  appJs : String
  qrcodeJs : String
  codec : JsonCodec
  extract : HeaderMap → List UInt8 → Except Response CreatePasteRequest
  framework : Framework

abbrev PasteHandler : Type := Handler PasteId Paste Response

namespace App

variable (app : App)

def index : PasteHandler :=
  return ⟨200, contentType "text/html; charset=utf-8", .text app.indexHtml⟩

def javascript (body : String) : PasteHandler :=
  return ⟨200, contentType "application/javascript; charset=utf-8", .text body⟩

def createPaste (request : Request) : PasteHandler :=
  match app.extract request.headers request.body with
  | .error rejection => return rejection
  | .ok req => do
      match ← call (create req.content req.syntaxHint req.ttlSeconds req.oneShot) with
      | .error err => return intoResponse (AppError.fromService err)
      | .ok paste =>
          return json 201 (CreatePasteResponse.fromPaste paste app.publicBaseUrl).fields

/-- What `get_paste` and `raw_paste` have in common: fetch, count, answer. -/
def servePaste (id : String) (answer : Paste → Response) : PasteHandler := do
  match ← call (fetch app.codec id) with
  | .error err => return intoResponse (AppError.fromService err)
  | .ok paste =>
      count
      return answer paste

def getPaste (id : String) : PasteHandler :=
  app.servePaste id fun paste => json 200 (PasteResponse.fromPaste paste).fields

def rawPaste (id : String) : PasteHandler :=
  app.servePaste id fun paste =>
    ⟨200, contentType "text/plain; charset=utf-8", .text paste.content.value⟩

def deletePaste (id : String) : PasteHandler := do
  match ← call (delete id) with
  | .error err => return intoResponse (AppError.fromService err)
  | .ok () => return ⟨204, [], .empty⟩

def route (request : Request) : PasteHandler :=
  match dispatch request.method request.path with
  | .index => app.index
  | .appJs => javascript app.appJs
  | .qrcodeJs => javascript app.qrcodeJs
  | .health => Api.health
  | .ready => Api.ready
  | .metrics => Api.metrics "pastes_served"
  | .createPaste => app.createPaste request
  | .getPaste id => app.getPaste id
  | .rawPaste id => app.rawPaste id
  | .deletePaste id => deletePaste id
  | .badRequest => return app.framework.badRequest
  | .methodNotAllowed => return app.framework.methodNotAllowed
  | .notFound => return app.framework.notFound

/-- The answer to a request. -/
def answer (request : Request) : PasteHandler :=
  (fun response => response.answering request.method) <$>
    rateLimit app.trustProxy request (app.route request)

end App

end ActorServices.Pastebin

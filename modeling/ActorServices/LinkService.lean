import ActorServices.ServiceCommon

set_option autoImplicit false

namespace ActorServices.UrlShortener

open UseCase

def codeMinLen : Nat := 1
def codeMaxLen : Nat := 32
/-- Maximum accepted length of a target URL, in bytes. -/
def urlMaxLen : Nat := 2048
def generatedCodeLen : Nat := 7

inductive ValidationError
  | codeLength
  | codeCharset
  | urlTooLong
  | urlInvalid
  | urlScheme
  deriving DecidableEq, Repr

structure ShortCode where
  value : String
  deriving DecidableEq, Repr

def ShortCode.parse (raw : String) : Except ValidationError ShortCode :=
  parseIdentifier codeMinLen codeMaxLen .codeLength .codeCharset ShortCode.mk raw

def ShortCode.fromTrusted (value : String) : ShortCode := ⟨value⟩

theorem parse_code {raw : String} {code : ShortCode} (parsed : ShortCode.parse raw = .ok code) :
    code = ⟨raw⟩ :=
  parseIdentifier_trusted parsed

/-- What the service reads off a `url::Url`. -/
structure Url where
  scheme : String
  hasHost : Bool
  hostStr : Option String
  deriving DecidableEq, Repr

/-- `url::Url::parse`, from a third-party crate. -/
abbrev UrlParser : Type := String → Option Url

structure TargetUrl where
  value : String
  deriving DecidableEq, Repr

def TargetUrl.parse (urls : UrlParser) (raw : String) : Except ValidationError TargetUrl :=
  if urlMaxLen < raw.utf8ByteSize then .error .urlTooLong
  else
    match urls raw with
    | none => .error .urlInvalid
    | some parsed =>
        if parsed.scheme = "http" ∨ parsed.scheme = "https" then
          if parsed.hasHost then .ok ⟨raw⟩ else .error .urlInvalid
        else .error .urlScheme

theorem parse_target {urls : UrlParser} {raw : String} {target : TargetUrl}
    (parsed : TargetUrl.parse urls raw = .ok target) : target = ⟨raw⟩ := by
  unfold TargetUrl.parse at parsed
  split at parsed
  · cases parsed
  · split at parsed
    · cases parsed
    · split at parsed
      · split at parsed
        · exact (Except.ok.inj parsed).symm
        · cases parsed
      · cases parsed

def TargetUrl.fromTrusted (value : String) : TargetUrl := ⟨value⟩

/-- The lowercased host; `to_ascii_lowercase` touches ASCII letters only. -/
def TargetUrl.host (urls : UrlParser) (target : TargetUrl) : Option String :=
  (urls target.value).bind fun parsed => parsed.hostStr.map String.toLower

structure Link where
  code : ShortCode
  target : TargetUrl
  createdAt : Int
  hits : Int
  expiresAt : Option Int
  deriving DecidableEq, Repr

def Link.withExpiry (code : ShortCode) (target : TargetUrl) (createdAt : Int)
    (expiresAt : Option Int) : Link :=
  { code, target, createdAt, hits := 0, expiresAt }

def Link.isExpired (link : Link) (now : Int) : Bool :=
  ActorServices.isExpired link.expiresAt now

/-- `hits = hits + n`, the one write that changes a stored link. -/
def Link.addHits (n : Int) (link : Link) : Link := { link with hits := link.hits + n }

inductive ServiceError
  | validation (err : ValidationError)
  | notFound
  | conflict
  | blocked
  | backend (cause : String)
  deriving DecidableEq, Repr

def ServiceError.fromRepo : RepoError → ServiceError
  | .conflict => .conflict
  | .backend cause => .backend cause

abbrev Service (α : Type) : Type := UseCase ShortCode Link α

/-- What a `LinkService` is built with besides its stores. -/
structure Settings where
  urls : UrlParser
  blockedHosts : List String

/-- An exact denylisted host or a subdomain of one. -/
def Settings.isBlocked (settings : Settings) (target : TargetUrl) : Bool :=
  if settings.blockedHosts.isEmpty then false
  else
    match target.host settings.urls with
    | some host => settings.blockedHosts.any fun blocked =>
        host == blocked || host.endsWith ("." ++ blocked)
    | none => false

/-- The attempts that `create` has left, each with a freshly generated code. -/
def createLoop (target : TargetUrl) (createdAt : Int) (expiresAt : Option Int) :
    Nat → Service (Except ServiceError Link)
  | 0 => return .error .conflict
  | attempts + 1 => do
      let draw ← random
      let code := ShortCode.fromTrusted (generateIdentifier generatedCodeLen draw)
      let link := Link.withExpiry code target createdAt expiresAt
      match ← repoInsert link with
      | .ok () => return .ok link
      | .error .conflict => createLoop target createdAt expiresAt attempts
      | .error (.backend cause) => return .error (.backend cause)

/-- The `alias` branch of `create`: the code is taken verbatim. -/
def createAlias (requested : String) (target : TargetUrl) (createdAt : Int)
    (expiresAt : Option Int) : Service (Except ServiceError Link) :=
  match ShortCode.parse requested with
  | .error err => return .error (.validation err)
  | .ok code => do
      let link := Link.withExpiry code target createdAt expiresAt
      match ← repoInsert link with
      | .ok () => return .ok link
      | .error err => return .error (.fromRepo err)

def create (settings : Settings) (url : String) (requested : Option String)
    (ttlSeconds : Option Nat) : Service (Except ServiceError Link) :=
  match TargetUrl.parse settings.urls url with
  | .error err => return .error (.validation err)
  | .ok target =>
      if settings.isBlocked target then return .error .blocked
      else do
        let createdAt ← nowUnix
        let expiresAt := expiryOf createdAt ttlSeconds
        match requested with
        | some requested => createAlias requested target createdAt expiresAt
        | none => createLoop target createdAt expiresAt maxGenerationAttempts

/-- The cache fill of `resolve`. -/
def fillCache (code : ShortCode) (link : Link) : Service Unit := do
  let ttl ← cacheTtlSecs link.expiresAt
  if 0 < ttl then cacheSet code link.target.value ttl else return ()

/-- The repository half of `resolve`. -/
def resolveStored (code : ShortCode) : Service (Except ServiceError TargetUrl) := do
  match ← repoGet code with
  | .error err => return .error (.fromRepo err)
  | .ok none => return .error .notFound
  | .ok (some link) =>
      if link.isExpired (← nowUnix) then
        let _ ← repoDelete code
        cacheDelete code
        return .error .notFound
      else
        fillCache code link
        record code
        return .ok link.target

def resolve (raw : String) : Service (Except ServiceError TargetUrl) :=
  match ShortCode.parse raw with
  | .error _ => return .error .notFound
  | .ok code => do
      match ← cacheGet code with
      | some target =>
          record code
          return .ok (.fromTrusted target)
      | none => resolveStored code

def get (raw : String) : Service (Except ServiceError Link) :=
  match ShortCode.parse raw with
  | .error _ => return .error .notFound
  | .ok code => do
      match ← repoGet code with
      | .error err => return .error (.fromRepo err)
      | .ok none => return .error .notFound
      | .ok (some link) =>
          if link.isExpired (← nowUnix) then
            let _ ← repoDelete code
            return .error .notFound
          else return .ok link

def delete (raw : String) : Service (Except ServiceError Unit) :=
  match ShortCode.parse raw with
  | .error _ => return .error .notFound
  | .ok code => do
      match ← repoDelete code with
      | .error err => return .error (.fromRepo err)
      | .ok removed =>
          cacheDelete code
          if removed then return .ok () else return .error .notFound

end ActorServices.UrlShortener

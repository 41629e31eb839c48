import ActorServices.ServiceCommon

set_option autoImplicit false

namespace ActorServices.Pastebin

open UseCase

def idMinLen : Nat := 1
def idMaxLen : Nat := 32
/-- Maximum accepted paste content size, in bytes. -/
def maxContentBytes : Nat := 1000000
def generatedIdLen : Nat := 8

inductive ValidationError
  | idLength
  | idCharset
  | contentEmpty
  | contentTooLarge
  deriving DecidableEq, Repr

structure PasteId where
  value : String
  deriving DecidableEq, Repr

def PasteId.parse (raw : String) : Except ValidationError PasteId :=
  parseIdentifier idMinLen idMaxLen .idLength .idCharset PasteId.mk raw

def PasteId.fromTrusted (value : String) : PasteId := ⟨value⟩

structure Content where
  value : String
  deriving DecidableEq, Repr

def Content.parse (raw : String) : Except ValidationError Content :=
  if raw.isEmpty then .error .contentEmpty
  else if maxContentBytes < raw.utf8ByteSize then .error .contentTooLarge
  else .ok ⟨raw⟩

def Content.fromTrusted (value : String) : Content := ⟨value⟩

structure Paste where
  id : PasteId
  content : Content
  syntaxHint : Option String
  createdAt : Int
  expiresAt : Option Int
  oneShot : Bool
  views : Int
  deriving DecidableEq, Repr

def Paste.new (id : PasteId) (content : Content) (syntaxHint : Option String) (createdAt : Int)
    (expiresAt : Option Int) (oneShot : Bool) : Paste :=
  { id, content, syntaxHint, createdAt, expiresAt, oneShot, views := 0 }

def Paste.isExpired (paste : Paste) (now : Int) : Bool :=
  ActorServices.isExpired paste.expiresAt now

/-- `views = views + n`, the one write that changes a stored paste. -/
def Paste.addViews (n : Int) (paste : Paste) : Paste := { paste with views := paste.views + n }

inductive ServiceError
  | validation (err : ValidationError)
  | notFound
  | conflict
  | backend (cause : String)
  deriving DecidableEq, Repr

def ServiceError.fromRepo : RepoError → ServiceError
  | .conflict => .conflict
  | .backend cause => .backend cause

/-- The serialized snapshot of a paste. -/
structure CachedPaste where
  id : String
  content : String
  syntaxHint : Option String
  createdAt : Int
  expiresAt : Option Int
  oneShot : Bool
  views : Int
  deriving DecidableEq, Repr

def CachedPaste.fromPaste (paste : Paste) : CachedPaste where
  id := paste.id.value
  content := paste.content.value
  syntaxHint := paste.syntaxHint
  createdAt := paste.createdAt
  expiresAt := paste.expiresAt
  oneShot := paste.oneShot
  views := paste.views

def CachedPaste.intoPaste (cached : CachedPaste) : Paste where
  id := .fromTrusted cached.id
  content := .fromTrusted cached.content
  syntaxHint := cached.syntaxHint
  createdAt := cached.createdAt
  expiresAt := cached.expiresAt
  oneShot := cached.oneShot
  views := cached.views

@[simp] theorem intoPaste_fromPaste (paste : Paste) :
    (CachedPaste.fromPaste paste).intoPaste = paste := rfl

/-- `serde_json` on `CachedPaste`: both directions may fail, but what was
encoded decodes to itself. -/
structure JsonCodec where
  toString : CachedPaste → Option String
  fromStr : String → Option CachedPaste
  roundTrip : ∀ cached json, toString cached = some json → fromStr json = some cached

/-- A codec on one paste, for runs on fixed data. -/
def JsonCodec.single (cached : CachedPaste) (json : String) : JsonCodec where
  toString other := if other = cached then some json else none
  fromStr text := if text = json then some cached else none
  roundTrip other text encoded := by
    split at encoded
    · rename_i same
      cases encoded
      rw [if_pos rfl, same]
    · cases encoded

abbrev Service (α : Type) : Type := UseCase PasteId Paste α

/-- The attempts that `create` has left, each with a freshly generated id. -/
def createLoop (content : Content) (syntaxHint : Option String) (createdAt : Int)
    (expiresAt : Option Int) (oneShot : Bool) : Nat → Service (Except ServiceError Paste)
  | 0 => return .error .conflict
  | attempts + 1 => do
      let draw ← random
      let id := PasteId.fromTrusted (generateIdentifier generatedIdLen draw)
      let paste := Paste.new id content syntaxHint createdAt expiresAt oneShot
      match ← repoInsert paste with
      | .ok () => return .ok paste
      | .error .conflict => createLoop content syntaxHint createdAt expiresAt oneShot attempts
      | .error (.backend cause) => return .error (.backend cause)

def create (content : String) (syntaxHint : Option String) (ttlSeconds : Option Nat)
    (oneShot : Bool) : Service (Except ServiceError Paste) :=
  match Content.parse content with
  | .error err => return .error (.validation err)
  | .ok content => do
      let createdAt ← nowUnix
      createLoop content syntaxHint createdAt (expiryOf createdAt ttlSeconds) oneShot
        maxGenerationAttempts

/-- The cache-aside half of `fetch`: the paste to serve, if the cache has one. -/
def fetchCached (codec : JsonCodec) (id : PasteId) : Service (Option Paste) := do
  match ← cacheGet id with
  | none => return none
  | some json =>
      match codec.fromStr json with
      | none => return none
      | some cached =>
          let paste := cached.intoPaste
          if paste.isExpired (← nowUnix) then
            cacheDelete id
            return none
          else
            record id
            return some paste

/-- The cache fill of `fetch`; a paste that does not serialize is not cached. -/
def fillCache (codec : JsonCodec) (id : PasteId) (paste : Paste) : Service Unit := do
  let ttl ← cacheTtlSecs paste.expiresAt
  if 0 < ttl then
    match codec.toString (.fromPaste paste) with
    | some json => cacheSet id json ttl
    | none => return ()
  else return ()

/-- The repository half of `fetch`. -/
def fetchStored (codec : JsonCodec) (id : PasteId) : Service (Except ServiceError Paste) := do
  match ← repoGet id with
  | .error err => return .error (.fromRepo err)
  | .ok none => return .error .notFound
  | .ok (some paste) =>
      if paste.isExpired (← nowUnix) then
        let _ ← repoDelete id
        cacheDelete id
        return .error .notFound
      else if paste.oneShot then
        match ← repoTake id with
        | .error err => return .error (.fromRepo err)
        | .ok none => return .error .notFound
        | .ok (some paste) => return .ok paste
      else
        fillCache codec id paste
        record id
        return .ok paste

def fetch (codec : JsonCodec) (raw : String) : Service (Except ServiceError Paste) :=
  match PasteId.parse raw with
  | .error _ => return .error .notFound
  | .ok id => do
      match ← fetchCached codec id with
      | some paste => return .ok paste
      | none => fetchStored codec id

def delete (raw : String) : Service (Except ServiceError Unit) :=
  match PasteId.parse raw with
  | .error _ => return .error .notFound
  | .ok id => do
      match ← repoDelete id with
      | .error err => return .error (.fromRepo err)
      | .ok removed =>
          cacheDelete id
          if removed then return .ok () else return .error .notFound

end ActorServices.Pastebin

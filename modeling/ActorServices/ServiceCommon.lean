import Mathlib.Algebra.Group.Int.Defs
import Mathlib.Algebra.GroupWithZero.Nat
import ActorServices.Proc

set_option autoImplicit false

/- The parts that the two HTTP services hold in identical copies: identifier
validation, expiry arithmetic, random identifiers, and the awaits of a use
case on its repository, read-cache, counter and clock. -/
namespace ActorServices

/-- `u8::is_ascii_alphanumeric`. -/
def isAsciiAlphanumeric (byte : UInt8) : Bool :=
  (48 ≤ byte && byte ≤ 57) || (65 ≤ byte && byte ≤ 90) || (97 ≤ byte && byte ≤ 122)

/-- The body of `PasteId::parse` and of `ShortCode::parse`. -/
def parseIdentifier {α ε : Type} (minLen maxLen : Nat) (badLength badCharset : ε)
    (trusted : String → α) (raw : String) : Except ε α :=
  if raw.utf8ByteSize < minLen ∨ maxLen < raw.utf8ByteSize then .error badLength
  else if ¬ raw.toUTF8.data.all isAsciiAlphanumeric then .error badCharset
  else .ok (trusted raw)

theorem parseIdentifier_trusted {α ε : Type} {minLen maxLen : Nat} {badLength badCharset : ε}
    {trusted : String → α} {raw : String} {value : α}
    (parsed : parseIdentifier minLen maxLen badLength badCharset trusted raw = .ok value) :
    value = trusted raw := by
  unfold parseIdentifier at parsed
  split at parsed
  · cases parsed
  · split at parsed
    · cases parsed
    · exact (Except.ok.inj parsed).symm

/-- The base62 `ALPHABET` of generated identifiers. -/
def alphabet : List Char :=
  "ABCDEFGHIJKLMNOPQRSTUVWXYZabcdefghijklmnopqrstuvwxyz0123456789".toList

/-- Draws are written as numerals. -/
instance alphabetNeZero : NeZero 62 := ⟨by decide⟩

/-- `generate_id` and `generate_code`: one draw below 62 for each character. -/
def generateIdentifier (len : Nat) (draw : Nat → Fin 62) : String :=
  String.ofList ((List.range len).map fun index => alphabet.getD (draw index).val 'A')

def maxGenerationAttempts : Nat := 5

/-- Upper bound on how long an entry is cached, in seconds. -/
def maxCacheTtlSecs : Nat := 300

/-- `as i64` on an unsigned 64-bit value. -/
def asI64 (value : Nat) : Int := Int.bmod value (2 ^ 64)

/-- `i64::saturating_add`. -/
def saturatingAdd (left right : Int) : Int :=
  max (-2 ^ 63) (min (2 ^ 63 - 1) (left + right))

/-- The stored expiry that `create` computes from an optional `ttl_seconds`. -/
def expiryOf (createdAt : Int) (ttlSeconds : Option Nat) : Option Int :=
  ttlSeconds.map fun secs => saturatingAdd createdAt (asI64 secs)

/-- `is_expired` of a link and of a paste: an expiry at or before `now`. -/
def isExpired (expiresAt : Option Int) (now : Int) : Bool :=
  match expiresAt with
  | some exp => exp ≤ now
  | none => false

@[simp] theorem isExpired_some (exp now : Int) : isExpired (some exp) now = decide (exp ≤ now) :=
  rfl

/-- Once expired, expired at every later reading. -/
theorem isExpired_mono {expiresAt : Option Int} {earlier later : Int} (order : earlier ≤ later)
    (expired : isExpired expiresAt earlier = true) : isExpired expiresAt later = true := by
  cases expiresAt with
  | none => cases expired
  | some exp =>
      simp only [isExpired_some, decide_eq_true_eq] at expired ⊢
      omega

/-- The `remaining` branch of `cache_ttl_secs`. -/
def remainingTtl (exp now : Int) : Nat :=
  let remaining := exp - now
  if remaining ≤ 0 then 0 else min remaining.toNat maxCacheTtlSecs

/-- `domain::RepoError`; the boxed cause is opaque text. -/
inductive RepoError
  | conflict
  | backend (cause : String)
  deriving DecidableEq, Repr

/-- The awaits of a use case over keys `K` and stored entities `V`, and its two
sources of outside data: the clock, read as Unix seconds, and the random draws. -/
inductive Op (K V : Type)
  | cacheGet (key : K)
  | cacheSet (key : K) (value : String) (ttlSecs : Nat)
  | cacheDelete (key : K)
  | repoInsert (entity : V)
  | repoGet (key : K)
  | repoTake (key : K)
  | repoDelete (key : K)
  | record (key : K)
  | nowUnix
  | random

@[reducible] def Op.Reply {K V : Type} : Op K V → Type
  | .cacheGet _ => Option String
  | .cacheSet _ _ _ => Unit
  | .cacheDelete _ => Unit
  | .repoInsert _ => Except RepoError Unit
  | .repoGet _ => Except RepoError (Option V)
  | .repoTake _ => Except RepoError (Option V)
  | .repoDelete _ => Except RepoError Bool
  | .record _ => Unit
  | .nowUnix => Int
  | .random => Nat → Fin 62

/-- The key that an await addresses a store under. -/
def Op.key? {K V : Type} : Op K V → Option K
  | .cacheGet key => some key
  | .cacheSet key _ _ => some key
  | .cacheDelete key => some key
  | .repoInsert _ => none
  | .repoGet key => some key
  | .repoTake key => some key
  | .repoDelete key => some key
  | .record key => some key
  | .nowUnix => none
  | .random => none

/-- Removing a row by its key asks for the cache entry to be invalidated. -/
def invalidates {K V : Type} : (op : Op K V) → op.Reply → Option (Op K V)
  | .repoDelete key, .ok _ => some (.cacheDelete key)
  | _, _ => none

/-- Any other reply puts no condition on what is awaited next. -/
theorem not_invalidates {K V : Type} {op : Op K V} {reply : op.Reply} {next : Op K V → Prop}
    (free : invalidates op reply = none) (required : Op K V)
    (demanded : invalidates op reply = some required) : next required := by
  rw [free] at demanded
  cases demanded

abbrev UseCase (K V α : Type) : Type := Proc (Op K V) Op.Reply α

namespace UseCase

variable {K V : Type}

abbrev cacheGet (key : K) : UseCase K V (Option String) :=
  .call (.cacheGet key) .ret
abbrev cacheSet (key : K) (value : String) (ttlSecs : Nat) : UseCase K V Unit :=
  .call (.cacheSet key value ttlSecs) .ret
abbrev cacheDelete (key : K) : UseCase K V Unit :=
  .call (.cacheDelete key) .ret
abbrev repoInsert (entity : V) : UseCase K V (Except RepoError Unit) :=
  .call (.repoInsert entity) .ret
abbrev repoGet (key : K) : UseCase K V (Except RepoError (Option V)) :=
  .call (.repoGet key) .ret
abbrev repoTake (key : K) : UseCase K V (Except RepoError (Option V)) :=
  .call (.repoTake key) .ret
abbrev repoDelete (key : K) : UseCase K V (Except RepoError Bool) :=
  .call (.repoDelete key) .ret
abbrev record (key : K) : UseCase K V Unit :=
  .call (.record key) .ret
abbrev nowUnix : UseCase K V Int := .call .nowUnix .ret
abbrev random : UseCase K V (Nat → Fin 62) := .call .random .ret

/-- `cache_ttl_secs`: at most `MAX_CACHE_TTL_SECS`, never past the expiry. The
clock is read only when there is an expiry. -/
def cacheTtlSecs (expiresAt : Option Int) : UseCase K V Nat :=
  match expiresAt with
  | some exp => do
      let now ← nowUnix
      return remainingTtl exp now
  | none => return maxCacheTtlSecs

theorem cacheTtlSecs_invalidates (expiresAt : Option Int) :
    (cacheTtlSecs expiresAt : UseCase K V Nat).Follows invalidates := by
  cases expiresAt with
  | none => trivial
  | some exp => exact fun now => ⟨not_invalidates rfl, trivial⟩

/-- All that the ttl of a cache fill may await is the clock. -/
theorem cacheTtlSecs_safe {μ : Type} {contract : Contract (Op K V) Op.Reply μ}
    (keeps : μ → Prop) {memory : μ} (expiresAt : Option Int) (kept : keeps memory)
    (reads : contract.allows memory .nowUnix)
    (clock : ∀ now after, contract.replies memory .nowUnix now after → keeps after) :
    (cacheTtlSecs expiresAt).Safe contract (fun after _ => keeps after) memory := by
  cases expiresAt with
  | none => exact kept
  | some exp => exact ⟨reads, clock⟩

end UseCase

end ActorServices

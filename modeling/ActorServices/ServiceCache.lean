import ActorServices.ServiceEnvironment

set_option autoImplicit false

namespace ActorServices.Sequential

open Environment (Entity)

/-- A read-cache. The time is in milliseconds. -/
structure Cache (K : Type) where
  State : Type
  empty : State
  get : State → Nat → K → Option String × State
  set : State → Nat → K → String → Nat → State
  delete : State → Nat → K → State

/-- `NoOpCache`: every read misses. -/
def noOpCache (K : Type) : Cache K where
  State := Unit
  empty := ()
  get _ _ _ := (none, ())
  set _ _ _ _ _ := ()
  delete _ _ _ := ()

/-- `InMemoryCache`: a map that ignores the TTL. -/
def inMemoryCache (K : Type) [DecidableEq K] : Cache K where
  State := K → Option String
  empty _ := none
  get entries _ key := (entries key, entries)
  set entries _ key value _ := Function.update entries key (some value)
  delete entries _ key := Function.update entries key none

/-- A value in Redis and the time at which it expires. -/
structure Stored where
  value : String
  deadline : Option Nat
  deriving DecidableEq, Repr

def Stored.live (stored : Stored) (time : Nat) : Bool :=
  match stored.deadline with
  | some deadline => time < deadline
  | none => true

/-- `RedisCache`: `SET EX` for a positive TTL, else a plain `SET`. -/
def redisCache (K : Type) [DecidableEq K] : Cache K where
  State := K → Option Stored
  empty _ := none
  get entries time key :=
    (((entries key).filter fun stored => stored.live time).map Stored.value, entries)
  set entries time key value ttlSecs := Function.update entries key
    (some ⟨value, if 0 < ttlSecs then some (time + 1000 * ttlSecs) else none⟩)
  delete entries _ key := Function.update entries key none

/-- A cache that may lose any entry at any time: what it answers, if it answers,
is the value last set under the key and not deleted since. `holds` relates its
state to those last values. -/
structure LossyCache (K : Type) [DecidableEq K] extends Cache K where
  holds : State → (K → Option String) → Prop
  holds_empty : holds empty fun _ => none
  get_last : ∀ state last time key text, holds state last →
    (get state time key).1 = some text → last key = some text
  get_holds : ∀ state last time key, holds state last → holds (get state time key).2 last
  set_holds : ∀ state last time key value ttlSecs, holds state last →
    holds (set state time key value ttlSecs) (Function.update last key (some value))
  delete_holds : ∀ state last time key, holds state last →
    holds (delete state time key) (Function.update last key none)

def noOpLossy (K : Type) [DecidableEq K] : LossyCache K where
  toCache := noOpCache K
  holds _ _ := True
  holds_empty := trivial
  get_last _ _ _ _ _ _ answered := nomatch answered
  get_holds _ _ _ _ _ := trivial
  set_holds _ _ _ _ _ _ _ := trivial
  delete_holds _ _ _ _ _ := trivial

def inMemoryLossy (K : Type) [DecidableEq K] : LossyCache K where
  toCache := inMemoryCache K
  holds entries last := entries = last
  holds_empty := rfl
  get_last _ _ _ _ _ same answered := same ▸ answered
  get_holds _ _ _ _ same := same
  set_holds _ _ _ _ _ _ same := same ▸ rfl
  delete_holds _ _ _ _ same := same ▸ rfl

theorem map_update {K : Type} [DecidableEq K] (entries : K → Option Stored) (key other : K)
    (stored : Option Stored) :
    (Function.update entries key stored other).map Stored.value =
      Function.update (fun key => (entries key).map Stored.value) key (stored.map Stored.value)
        other := by
  by_cases same : other = key
  · subst same
    rw [Function.update_self, Function.update_self]
  · rw [Function.update_of_ne same, Function.update_of_ne same]

def redisLossy (K : Type) [DecidableEq K] : LossyCache K where
  toCache := redisCache K
  holds (entries : K → Option Stored) last := (fun key => (entries key).map Stored.value) = last
  holds_empty := rfl
  get_last entries last time key text same answered := by
    obtain ⟨stored, found, rfl⟩ := Option.map_eq_some_iff.mp answered
    subst same
    exact congrArg (Option.map Stored.value) (Option.filter_eq_some_iff.mp found).1
  get_holds _ _ _ _ same := same
  set_holds entries last time key value ttlSecs same := by
    subst same
    exact funext fun other => map_update entries key other (some _)
  delete_holds entries last time key same := by
    subst same
    exact funext fun other => map_update entries key other none

/-- The recorder in use: one counter write for each record call, or batches. -/
inductive Recorder
  | immediate
  | batching
  deriving DecidableEq, Repr

/-- When a call takes place: the time that the cache goes by, in milliseconds,
and the call's reading of the clock, in Unix seconds. -/
structure Instant where
  time : Nat
  reading : Int
  deriving DecidableEq, Repr

/-- What a service's calls share. `recorded` lists the record calls; `handed`
is the entity last read and `filled` the one that each cache entry was made of,
which no program sees. -/
structure World (K V σ : Type) where
  repo : K → Option V
  cache : σ
  drawn : Nat
  recorded : List K
  handed : Option V
  filled : K → Option V

variable {K V α : Type}

def World.start (cache : Cache K) : World K V cache.State where
  repo _ := none
  cache := cache.empty
  drawn := 0
  recorded := []
  handed := none
  filled _ := none

variable [DecidableEq K]

def World.setRepo {σ : Type} (world : World K V σ) (key : K) (entity : Option V) : World K V σ :=
  { world with repo := Function.update world.repo key entity }

/-- `increment_hits_by` and `increment_views_by`. -/
def World.incrementBy {σ : Type} (entity : Entity K V) (world : World K V σ) (key : K)
    (n : Nat) : World K V σ :=
  world.setRepo key ((world.repo key).map (entity.bump n))

def World.record {σ : Type} (entity : Entity K V) (recorder : Recorder) (world : World K V σ)
    (key : K) : World K V σ :=
  match recorder with
  | .immediate => { world.incrementBy entity key 1 with recorded := world.recorded ++ [key] }
  | .batching => { world with recorded := world.recorded ++ [key] }

/-- One await of a call at its instant. Repository operations succeed. -/
def handle (entity : Entity K V) (recorder : Recorder) (draws : Nat → Nat → Fin 62)
    (cache : Cache K) (instant : Instant) (world : World K V cache.State) :
    (op : Op K V) → op.Reply × World K V cache.State
  | .cacheGet key =>
      let result := cache.get world.cache instant.time key
      (result.1, { world with cache := result.2 })
  | .cacheSet key value ttlSecs =>
      ((), { world with
        cache := cache.set world.cache instant.time key value ttlSecs
        filled := Function.update world.filled key world.handed })
  | .cacheDelete key => ((), { world with cache := cache.delete world.cache instant.time key })
  | .repoInsert value =>
      match world.repo (entity.key value) with
      | some _ => (.error .conflict, world)
      | none => (.ok (), world.setRepo (entity.key value) (some value))
  | .repoGet key => (.ok (world.repo key), { world with handed := world.repo key })
  | .repoTake key => (.ok (world.repo key), world.setRepo key none)
  | .repoDelete key => (.ok (world.repo key).isSome, world.setRepo key none)
  | .record key => ((), world.record entity recorder key)
  | .nowUnix => (instant.reading, world)
  | .random => (draws world.drawn, { world with drawn := world.drawn + 1 })

section Run

variable {entity : Entity K V} {recorder : Recorder} {draws : Nat → Nat → Fin 62} {cache : Cache K}
  {instant : Instant} (world : World K V cache.State)

/-- What `cache_ttl_secs` returns at a fixed reading. -/
def ttlAt (reading : Int) (expiresAt : Option Int) : Nat :=
  match expiresAt with
  | some exp => remainingTtl exp reading
  | none => maxCacheTtlSecs

theorem run_cacheTtlSecs (expiresAt : Option Int) :
    Proc.run (handle entity recorder draws cache instant) (UseCase.cacheTtlSecs expiresAt) world =
      (ttlAt instant.reading expiresAt, world) := by
  cases expiresAt <;> rfl

/-- A live entity is cached for some time. -/
theorem ttlAt_pos {reading : Int} {expiresAt : Option Int}
    (live : isExpired expiresAt reading = false) : 0 < ttlAt reading expiresAt := by
  cases expiresAt with
  | none => exact Nat.zero_lt_succ 299
  | some exp =>
      simp only [isExpired_some, decide_eq_false_iff_not] at live
      have left : ¬ exp - reading ≤ 0 := by omega
      have positive : 0 < (exp - reading).toNat := by omega
      simp only [ttlAt, remainingTtl, left, ↓reduceIte, Nat.lt_min]
      exact ⟨positive, by decide⟩

def World.fill (cache : Cache K) (instant : Instant) (world : World K V cache.State) (key : K)
    (value : String) (ttlSecs : Nat) : World K V cache.State :=
  { world with
    cache := cache.set world.cache instant.time key value ttlSecs
    filled := Function.update world.filled key world.handed }

end Run

end ActorServices.Sequential

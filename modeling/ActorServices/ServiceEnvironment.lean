import ActorServices.Interleave
import ActorServices.ServiceCommon

set_option autoImplicit false

/- The repository, read-cache and clock that concurrent calls of one service
share. Every await is one atomic step. Rows carry a stamp that no program can
see: it tells two rows with equal fields apart, and so says which `create` a
returned entity comes from. -/
namespace ActorServices.Environment

open Interleave

/-- What the stores need to know of an entity: its key, and the only field
that a stored row ever changes in, its counter. -/
structure Entity (K V : Type) where
  key : V → K
  bump : Int → V → V
  key_bump : ∀ n value, key (bump n value) = key value
  bump_zero : ∀ value, bump 0 value = value
  bump_bump : ∀ m n value, bump m (bump n value) = bump (n + m) value

structure Row (V : Type) where
  value : V
  stamp : Nat
  deriving DecidableEq, Repr

/-- A cache entry with the row that its value was computed from. -/
structure Entry (V : Type) where
  value : String
  origin : Option (Row V)
  deriving DecidableEq, Repr

/-- `made` lists what was ever inserted: the row stamped `n` began as `made[n]`. -/
structure Shared (K V : Type) where
  repo : K → Option (Row V)
  cache : K → Option (Entry V)
  clock : Int
  made : List V

/-- What a call was last handed: a row, whether the call itself took that row
out of the repository, and the last clock reading. -/
structure Memory (V : Type) where
  held : Option (Row V)
  owned : Bool
  reading : Option Int
  deriving DecidableEq, Repr

/-- How one await turns out: normally, with a backend failure (no effect), or,
for the best-effort cache, without effect. -/
inductive Choice
  | done
  | failed (cause : String)
  | lost
  | drew (draw : Nat → Fin 62)

/-- What happens between the awaits: the clock moves to any reading, the cache
drops an entry, a view or hit recorder adds `n` to a stored counter. -/
inductive Event (K : Type)
  | clock (now : Int)
  | evict (key : K)
  | increment (key : K) (n : Nat)

/-- The await of this step takes place and succeeds. -/
def Succeeds {K : Type} : Label Choice (Event K) → Prop
  | .step _ (.failed _) => False
  | .step _ .lost => False
  | _ => True

variable {K V α : Type} [DecidableEq K]

def Shared.empty : Shared K V := ⟨fun _ => none, fun _ => none, 0, []⟩

def Shared.setRepo (shared : Shared K V) (key : K) (row : Option (Row V)) : Shared K V :=
  { shared with repo := Function.update shared.repo key row }

def Shared.setCache (shared : Shared K V) (key : K) (entry : Option (Entry V)) : Shared K V :=
  { shared with cache := Function.update shared.cache key entry }

def Shared.insert (entity : Entity K V) (shared : Shared K V) (value : V) : Shared K V :=
  { shared.setRepo (entity.key value) (some ⟨value, shared.made.length⟩) with
    made := shared.made ++ [value] }

def Memory.none : Memory V := ⟨.none, false, .none⟩

def Memory.given (memory : Memory V) (row : Option (Row V)) (owned : Bool) : Memory V :=
  { memory with held := row, owned }

/-- One await against the shared state. -/
def perform (entity : Entity K V) (shared : Shared K V) (memory : Memory V) (op : Op K V)
    (choice : Choice) : Option (op.Reply × Memory V × Shared K V) :=
  match op, choice with
  | .cacheGet key, .done =>
      match shared.cache key with
      | some entry => some (some entry.value, memory.given entry.origin false, shared)
      | none => some (none, memory, shared)
  | .cacheGet _, .lost => some (none, memory, shared)
  | .cacheSet key value _, .done =>
      some ((), memory, shared.setCache key (some ⟨value, memory.held⟩))
  | .cacheSet _ _ _, .lost => some ((), memory, shared)
  | .cacheDelete key, .done => some ((), memory, shared.setCache key none)
  | .cacheDelete _, .lost => some ((), memory, shared)
  | .repoInsert value, .done =>
      match shared.repo (entity.key value) with
      | some _ => some (.error .conflict, memory, shared)
      | none => some (.ok (), memory.given (some ⟨value, shared.made.length⟩) false,
          shared.insert entity value)
  | .repoInsert _, .failed cause => some (.error (.backend cause), memory, shared)
  | .repoGet key, .done =>
      match shared.repo key with
      | some row => some (.ok (some row.value), memory.given (some row) false, shared)
      | none => some (.ok none, memory, shared)
  | .repoGet _, .failed cause => some (.error (.backend cause), memory, shared)
  | .repoTake key, .done =>
      match shared.repo key with
      | some row => some (.ok (some row.value), memory.given (some row) true,
          shared.setRepo key none)
      | none => some (.ok none, memory, shared)
  | .repoTake _, .failed cause => some (.error (.backend cause), memory, shared)
  | .repoDelete key, .done =>
      match shared.repo key with
      | some row => some (.ok true, memory.given (some row) true, shared.setRepo key none)
      | none => some (.ok false, memory, shared)
  | .repoDelete _, .failed cause => some (.error (.backend cause), memory, shared)
  | .record _, .done => some ((), memory, shared)
  | .nowUnix, .done => some (shared.clock, { memory with reading := some shared.clock }, shared)
  | .random, .drew draw => some (draw, memory, shared)
  | _, _ => none

def happen (entity : Entity K V) (shared : Shared K V) : Event K → Option (Shared K V)
  | .clock now => some { shared with clock := now }
  | .evict key => some (shared.setCache key none)
  | .increment key n => some (shared.setRepo key ((shared.repo key).map fun row =>
      { row with value := entity.bump n row.value }))

/-- The surroundings of a service over the given entities. -/
def service (entity : Entity K V) :
    Environment (Op K V) Op.Reply (Shared K V) (Memory V) Choice (Event K) where
  fresh := .none
  perform := perform entity
  happen := happen entity

end ActorServices.Environment

import ActorServices.ServiceEnvironment

set_option autoImplicit false

namespace ActorServices.Environment

open Interleave

variable {K V α : Type}

/-- The row began as the entity made under its stamp and was only counted since. -/
def Origin (entity : Entity K V) (shared : Shared K V) (row : Row V) : Prop :=
  ∃ value n, shared.made[row.stamp]? = some value ∧ row.value = entity.bump n value

/-- The invariant of the shared state. `cacheable` is the relation between an
entity and the text that the service may cache for it. -/
structure Consistent (entity : Entity K V) (cacheable : V → String → Prop)
    (shared : Shared K V) : Prop where
  keyed : ∀ key row, shared.repo key = some row → entity.key row.value = key
  stored : ∀ key row, shared.repo key = some row → Origin entity shared row
  cached : ∀ key entry, shared.cache key = some entry → ∃ row, entry.origin = some row ∧
    Origin entity shared row ∧ entity.key row.value = key ∧ cacheable row.value entry.value

def Remembers (entity : Entity K V) (shared : Shared K V) (memory : Memory V) : Prop :=
  ∀ row, memory.held = some row → Origin entity shared row

/-- What a call may ask for, and what it can tell from a reply. -/
def contract (entity : Entity K V) (cacheable : V → String → Prop) :
    Contract (Op K V) Op.Reply (Memory V) where
  allows memory op :=
    match op with
    | .cacheSet key value _ => ∃ row, memory.held = some row ∧ entity.key row.value = key ∧
        cacheable row.value value
    | _ => True
  replies memory op reply after :=
    match op, reply with
    | .cacheGet key, some text => ∃ row, after = memory.given (some row) false ∧
        entity.key row.value = key ∧ cacheable row.value text
    | .repoGet key, .ok (some value) => ∃ row, after = memory.given (some row) false ∧
        row.value = value ∧ entity.key value = key
    | .repoTake key, .ok (some value) => ∃ row, after = memory.given (some row) true ∧
        row.value = value ∧ entity.key value = key
    | .repoDelete key, .ok true => ∃ row, after = memory.given (some row) true ∧
        entity.key row.value = key
    | .repoInsert value, .ok () => ∃ row, after = memory.given (some row) false ∧ row.value = value
    | .nowUnix, now => after = { memory with reading := some now }
    | _, _ => after = memory

variable {entity : Entity K V} {cacheable : V → String → Prop} {shared shared' : Shared K V}

theorem Origin.grow {row : Row V} (origin : Origin entity shared row)
    (extra : List V) (grown : shared'.made = shared.made ++ extra) :
    Origin entity shared' row := by
  obtain ⟨value, n, at_, same⟩ := origin
  refine ⟨value, n, ?_, same⟩
  rw [grown, List.getElem?_append_left (List.getElem?_eq_some_iff.mp at_).1, at_]

theorem Origin.key_eq {left right : Row V} (first : Origin entity shared left)
    (second : Origin entity shared right) (same : left.stamp = right.stamp) :
    entity.key left.value = entity.key right.value := by
  obtain ⟨value, n, made, counted⟩ := first
  obtain ⟨value', n', made', counted'⟩ := second
  rw [same, made'] at made
  cases made
  rw [counted, counted', entity.key_bump, entity.key_bump]

/-- A stamp names at most one stored row. -/
theorem Consistent.stamp_unique (consistent : Consistent entity cacheable shared)
    {key key' : K} {row row' : Row V} (here : shared.repo key = some row)
    (there : shared.repo key' = some row') (same : row.stamp = row'.stamp) :
    key = key' ∧ row = row' := by
  have keys : key = key' := by
    rw [← consistent.keyed key row here, ← consistent.keyed key' row' there]
    exact (consistent.stored key row here).key_eq (consistent.stored key' row' there) same
  subst keys
  exact ⟨rfl, Option.some.inj (here.symm.trans there)⟩

theorem Consistent.empty : Consistent entity cacheable (Shared.empty : Shared K V) :=
  ⟨(fun _ _ present => nomatch present), (fun _ _ present => nomatch present),
    (fun _ _ present => nomatch present)⟩

theorem Remembers.grow {memory : Memory V} (remembers : Remembers entity shared memory)
    (extra : List V) (grown : shared'.made = shared.made ++ extra) :
    Remembers entity shared' memory :=
  fun row held => (remembers row held).grow extra grown

theorem Remembers.given {row : Row V} (origin : Origin entity shared row) (memory : Memory V)
    (owned : Bool) : Remembers entity shared (memory.given (some row) owned) := by
  intro other held
  cases held
  exact origin

variable [DecidableEq K]

section Performs

variable (entity : Entity K V) (shared : Shared K V) (memory : Memory V) (choice : Choice)

/-- The outcomes of an await, one constructor for each branch of `perform`. -/
inductive Performs : (op : Op K V) → op.Reply → Memory V → Shared K V → Prop
  | hit {key : K} {entry : Entry V} (done : choice = .done)
      (found : shared.cache key = some entry) :
      Performs (.cacheGet key) (some entry.value) (memory.given entry.origin false) shared
  | miss {key : K} (absent : choice = .done → shared.cache key = none) :
      Performs (.cacheGet key) none memory shared
  | set {key : K} {value : String} {ttl : Nat} (done : choice = .done) :
      Performs (.cacheSet key value ttl) () memory
        (shared.setCache key (some ⟨value, memory.held⟩))
  | setLost {key : K} {value : String} {ttl : Nat} (lost : choice = .lost) :
      Performs (.cacheSet key value ttl) () memory shared
  | unset {key : K} : Performs (.cacheDelete key) () memory (shared.setCache key none)
  | unsetLost {key : K} (lost : choice = .lost) : Performs (.cacheDelete key) () memory shared
  | inserted {value : V} (free : shared.repo (entity.key value) = none) :
      Performs (.repoInsert value) (.ok ()) (memory.given (some ⟨value, shared.made.length⟩) false)
        (shared.insert entity value)
  | conflicted {value : V} {row : Row V} (found : shared.repo (entity.key value) = some row) :
      Performs (.repoInsert value) (.error .conflict) memory shared
  | insertFailed {value : V} {cause : String} (failed : choice = .failed cause) :
      Performs (.repoInsert value) (.error (.backend cause)) memory shared
  | got {key : K} {row : Row V} (found : shared.repo key = some row) :
      Performs (.repoGet key) (.ok (some row.value)) (memory.given (some row) false) shared
  | gotNone {key : K} (absent : shared.repo key = none) :
      Performs (.repoGet key) (.ok none) memory shared
  | getFailed {key : K} {cause : String} (failed : choice = .failed cause) :
      Performs (.repoGet key) (.error (.backend cause)) memory shared
  | took {key : K} {row : Row V} (found : shared.repo key = some row) :
      Performs (.repoTake key) (.ok (some row.value)) (memory.given (some row) true)
        (shared.setRepo key none)
  | tookNone {key : K} (absent : shared.repo key = none) :
      Performs (.repoTake key) (.ok none) memory shared
  | takeFailed {key : K} {cause : String} (failed : choice = .failed cause) :
      Performs (.repoTake key) (.error (.backend cause)) memory shared
  | deleted {key : K} {row : Row V} (done : choice = .done)
      (found : shared.repo key = some row) :
      Performs (.repoDelete key) (.ok true) (memory.given (some row) true)
        (shared.setRepo key none)
  | deletedNone {key : K} (absent : shared.repo key = none) :
      Performs (.repoDelete key) (.ok false) memory shared
  | deleteFailed {key : K} {cause : String} (failed : choice = .failed cause) :
      Performs (.repoDelete key) (.error (.backend cause)) memory shared
  | recorded {key : K} : Performs (.record key) () memory shared
  | read : Performs .nowUnix shared.clock { memory with reading := some shared.clock } shared
  | drew {draw : Nat → Fin 62} : Performs .random draw memory shared

variable {entity shared memory choice}

theorem perform_cases {op : Op K V} {reply : op.Reply} {remembered : Memory V}
    {shared' : Shared K V}
    (performed : perform entity shared memory op choice = some (reply, remembered, shared')) :
    Performs entity shared memory choice op reply remembered shared' := by
  unfold perform at performed
  split at performed
  · split at performed <;> cases performed
    · exact .hit rfl ‹_›
    · exact .miss fun _ => ‹_›
  · cases performed
    exact .miss fun impossible => nomatch impossible
  · cases performed
    exact .set rfl
  · cases performed
    exact .setLost rfl
  · cases performed
    exact .unset
  · cases performed
    exact .unsetLost rfl
  · split at performed <;> cases performed
    · exact .conflicted ‹_›
    · exact .inserted ‹_›
  · cases performed
    exact .insertFailed rfl
  · split at performed <;> cases performed
    · exact .got ‹_›
    · exact .gotNone ‹_›
  · cases performed
    exact .getFailed rfl
  · split at performed <;> cases performed
    · exact .took ‹_›
    · exact .tookNone ‹_›
  · cases performed
    exact .takeFailed rfl
  · split at performed <;> cases performed
    · exact .deleted rfl ‹_›
    · exact .deletedNone ‹_›
  · cases performed
    exact .deleteFailed rfl
  · cases performed
    exact .recorded
  · cases performed
    exact .read
  · cases performed
    exact .drew
  · cases performed

end Performs

section Updates

variable (shared : Shared K V) (key other : K)

@[simp] theorem setRepo_cache (row : Option (Row V)) :
    (shared.setRepo key row).cache = shared.cache := rfl

@[simp] theorem setRepo_made (row : Option (Row V)) :
    (shared.setRepo key row).made = shared.made := rfl

@[simp] theorem setRepo_clock (row : Option (Row V)) :
    (shared.setRepo key row).clock = shared.clock := rfl

@[simp] theorem setCache_repo (entry : Option (Entry V)) :
    (shared.setCache key entry).repo = shared.repo := rfl

@[simp] theorem setCache_made (entry : Option (Entry V)) :
    (shared.setCache key entry).made = shared.made := rfl

@[simp] theorem setCache_clock (entry : Option (Entry V)) :
    (shared.setCache key entry).clock = shared.clock := rfl

theorem setRepo_repo (row : Option (Row V)) :
    (shared.setRepo key row).repo other = if other = key then row else shared.repo other := by
  simp only [Shared.setRepo, Function.update_apply]

theorem setCache_cache (entry : Option (Entry V)) :
    (shared.setCache key entry).cache other =
      if other = key then entry else shared.cache other := by
  simp only [Shared.setCache, Function.update_apply]

@[simp] theorem insert_cache (entity : Entity K V) (value : V) :
    (shared.insert entity value).cache = shared.cache := rfl

@[simp] theorem insert_made (entity : Entity K V) (value : V) :
    (shared.insert entity value).made = shared.made ++ [value] := rfl

@[simp] theorem insert_clock (entity : Entity K V) (value : V) :
    (shared.insert entity value).clock = shared.clock := rfl

theorem insert_repo (entity : Entity K V) (value : V) :
    (shared.insert entity value).repo other = if other = entity.key value then
      some ⟨value, shared.made.length⟩ else shared.repo other :=
  setRepo_repo shared (entity.key value) other (some ⟨value, shared.made.length⟩)

end Updates

theorem origin_made (value : V) :
    Origin entity (shared.insert entity value) ⟨value, shared.made.length⟩ :=
  ⟨value, 0, by simp, (entity.bump_zero value).symm⟩

theorem Consistent.evict (consistent : Consistent entity cacheable shared) (key : K) :
    Consistent entity cacheable (shared.setCache key none) := by
  refine ⟨consistent.keyed, consistent.stored, ?_⟩
  intro other entry present
  rw [setCache_cache] at present
  split at present
  · cases present
  · exact consistent.cached other entry present

theorem Consistent.setCache (consistent : Consistent entity cacheable shared) {row : Row V}
    {text : String} (origin : Origin entity shared row) (fits : cacheable row.value text) :
    Consistent entity cacheable
      (shared.setCache (entity.key row.value) (some ⟨text, some row⟩)) := by
  refine ⟨consistent.keyed, consistent.stored, ?_⟩
  intro other entry present
  rw [setCache_cache] at present
  split at present
  · rename_i same
    cases present
    exact ⟨row, rfl, origin, same.symm, fits⟩
  · exact consistent.cached other entry present

theorem Consistent.remove (consistent : Consistent entity cacheable shared) (key : K) :
    Consistent entity cacheable (shared.setRepo key none) := by
  have kept : ∀ other row, (shared.setRepo key none).repo other = some row →
      shared.repo other = some row := by
    intro other row present
    rw [setRepo_repo] at present
    split at present
    · cases present
    · exact present
  exact ⟨fun other row present => consistent.keyed other row (kept other row present),
    fun other row present => consistent.stored other row (kept other row present),
    consistent.cached⟩

theorem Consistent.insert (consistent : Consistent entity cacheable shared) (value : V) :
    Consistent entity cacheable (shared.insert entity value) := by
  refine ⟨?_, ?_, ?_⟩
  · intro key row present
    rw [insert_repo] at present
    split at present
    · rename_i same
      cases present
      exact same.symm
    · exact consistent.keyed key row present
  · intro key row present
    rw [insert_repo] at present
    split at present
    · cases present
      exact origin_made value
    · exact (consistent.stored key row present).grow [value] rfl
  · intro key entry present
    obtain ⟨row, source, origin, keyed, fits⟩ := consistent.cached key entry present
    exact ⟨row, source, origin.grow [value] rfl, keyed, fits⟩

theorem Consistent.increment (consistent : Consistent entity cacheable shared) (key : K)
    (n : Nat) (shared' : Shared K V)
    (happened : happen entity shared (.increment key n) = some shared') :
    Consistent entity cacheable shared' := by
  cases happened
  have counted : ∀ other row, (shared.setRepo key ((shared.repo key).map fun row =>
      { row with value := entity.bump n row.value })).repo other = some row →
      ∃ old m, shared.repo other = some old ∧ row = ⟨entity.bump m old.value, old.stamp⟩ := by
    intro other row present
    rw [setRepo_repo] at present
    split at present
    · rename_i same
      obtain ⟨old, found, rfl⟩ := Option.map_eq_some_iff.mp present
      exact ⟨old, n, same ▸ found, rfl⟩
    · exact ⟨row, 0, present, by rw [entity.bump_zero]⟩
  refine ⟨?_, ?_, consistent.cached⟩
  · intro other row present
    obtain ⟨old, m, found, rfl⟩ := counted other row present
    exact (entity.key_bump m old.value).trans (consistent.keyed other old found)
  · intro other row present
    obtain ⟨old, m, found, rfl⟩ := counted other row present
    obtain ⟨value, k, made, same⟩ := consistent.stored other old found
    exact ⟨value, k + m, made, by rw [same, entity.bump_bump]⟩

/-- Rows are only ever made, never unmade. -/
theorem perform_made {memory remembered : Memory V} {op : Op K V} {choice : Choice}
    {reply : op.Reply}
    (performed : perform entity shared memory op choice = some (reply, remembered, shared')) :
    ∃ extra, shared'.made = shared.made ++ extra := by
  cases perform_cases performed
  case inserted value free => exact ⟨[value], rfl⟩
  all_goals exact ⟨[], by simp⟩

theorem happen_made {event : Event K} (happened : happen entity shared event = some shared') :
    shared'.made = shared.made := by
  cases event <;> cases happened <;> rfl

/-- One await keeps the shared state consistent, the caller's memory true, and
the contract. -/
theorem perform_consistent {memory remembered : Memory V} {op : Op K V} {choice : Choice}
    {reply : op.Reply} (consistent : Consistent entity cacheable shared)
    (remembers : Remembers entity shared memory)
    (allowed : (contract entity cacheable).allows memory op)
    (performed : perform entity shared memory op choice = some (reply, remembered, shared')) :
    Consistent entity cacheable shared' ∧ Remembers entity shared' remembered ∧
      (contract entity cacheable).replies memory op reply remembered := by
  cases perform_cases performed
  case hit key entry done found =>
    obtain ⟨row, source, origin, keyed, fits⟩ := consistent.cached key entry found
    rw [source]
    exact ⟨consistent, .given origin memory false, row, rfl, keyed, fits⟩
  case set key value ttl done =>
    obtain ⟨row, held, rfl, fits⟩ := allowed
    rw [held]
    exact ⟨consistent.setCache (remembers row held) fits, remembers, rfl⟩
  case unset key => exact ⟨consistent.evict key, remembers, rfl⟩
  case inserted value free =>
    exact ⟨consistent.insert value, .given (origin_made value) memory false, _, rfl, rfl⟩
  case got key row found =>
    exact ⟨consistent, .given (consistent.stored key row found) memory false, row, rfl, rfl,
      consistent.keyed key row found⟩
  case took key row found =>
    exact ⟨consistent.remove key, .given (consistent.stored key row found) memory true, row, rfl,
      rfl, consistent.keyed key row found⟩
  case deleted key row done found =>
    exact ⟨consistent.remove key, .given (consistent.stored key row found) memory true, row, rfl,
      consistent.keyed key row found⟩
  all_goals exact ⟨consistent, remembers, rfl⟩

/-- The rule of `Interleave` for a service over any entities, with contracts
that may ask for less and promise more than `contract` does. -/
theorem service_rule {admissible : Config (Op K V) Op.Reply α (Shared K V) (Memory V) →
      Label Choice (Event K) → Prop} {contracts : Nat → Contract (Op K V) Op.Reply (Memory V)}
    (allows : ∀ caller memory op, (contracts caller).allows memory op →
      (contract entity cacheable).allows memory op)
    (replies : ∀ (config : Config (Op K V) Op.Reply α (Shared K V) (Memory V)) caller choice op
      memory (reply : op.Reply) remembered shared', admissible config (.step caller choice) →
      Consistent entity cacheable config.shared → (contracts caller).allows memory op →
      Performs entity config.shared memory choice op reply remembered shared' →
      (contract entity cacheable).replies memory op reply remembered →
      (contracts caller).replies memory op reply remembered) :
    Rule (service entity) admissible contracts (Consistent entity cacheable)
      (Remembers entity) where
  fresh _ _ _ held := nomatch held
  performed config caller choice op memory reply remembered shared' admitted _ consistent remembers
      allowed performed := by
    obtain ⟨extra, grown⟩ := perform_made performed
    obtain ⟨kept, holds, promised⟩ :=
      perform_consistent consistent remembers (allows caller memory op allowed) performed
    have keeps := replies config caller choice op memory reply remembered shared' admitted
      consistent allowed (perform_cases performed) promised
    exact ⟨kept, holds, keeps, fun other held => held.grow extra grown⟩
  happened config event shared' _ consistent happened := by
    have grown := happen_made happened
    refine ⟨?_, fun other holds => holds.grow [] (by simp [grown])⟩
    cases event with
    | clock now =>
        cases happened
        exact ⟨consistent.keyed, consistent.stored, consistent.cached⟩
    | evict key =>
        cases happened
        exact consistent.evict key
    | increment key n => exact consistent.increment key n shared' happened

end ActorServices.Environment

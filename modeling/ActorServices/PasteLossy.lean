import ActorServices.PasteConcurrent
import ActorServices.ServiceCache

set_option autoImplicit false

namespace ActorServices.Pastebin

open ActorServices.Sequential

/-- The paste with its views left aside. -/
def Paste.unviewed (paste : Paste) : Paste := { paste with views := 0 }

def Reply.unviewed : Reply → Reply
  | .created result => .created (result.map Paste.unviewed)
  | .fetched result => .fetched (result.map Paste.unviewed)
  | .deleted result => .deleted result

abbrev PasteWorld (cache : Cache PasteId) : Type := World PasteId Paste cache.State

/-- Either a call, or what the view recorders of the two services add to a
stored counter in the meantime. -/
inductive Step
  | call (instant : Instant) (call : Call)
  | counted (id : PasteId) (cached plain : Nat)

/-- What can be told after a call. -/
structure Outcome where
  instant : Instant
  reply : Reply
  stored : PasteId → Option Paste
  recorded : List PasteId

section Run

variable (codec : JsonCodec) (recorder : Recorder) (draws : Nat → Nat → Fin 62)
  (cache : Cache PasteId)

abbrev pasteHandle (instant : Instant) :
    PasteWorld cache → (op : Op PasteId Paste) → op.Reply × PasteWorld cache :=
  handle pasteEntity recorder draws cache instant

def runCall (instant : Instant) (call : Call) (world : PasteWorld cache) :
    Reply × PasteWorld cache :=
  Proc.run (pasteHandle recorder draws cache instant) (call.program codec) world

/-- The outcomes of the calls, up to views. `amount` says which of the two
services this is. -/
def outcomes (amount : Nat → Nat → Nat) : PasteWorld cache → List Step → List Outcome
  | _, [] => []
  | world, .call instant call :: steps =>
      let result := runCall codec recorder draws cache instant call world
      ⟨instant, result.1.unviewed, fun id => (result.2.repo id).map Paste.unviewed,
        result.2.recorded⟩ :: outcomes amount result.2 steps
  | world, .counted id cached plain :: steps =>
      outcomes amount (world.incrementBy pasteEntity id (amount cached plain)) steps

end Run

section Fetch

variable {codec : JsonCodec} {recorder : Recorder} {draws : Nat → Nat → Fin 62}
  {cache : Cache PasteId} {instant : Instant} (world : PasteWorld cache) (id : PasteId)

theorem run_fetchStored_none (absent : world.repo id = none) :
    Proc.run (pasteHandle recorder draws cache instant) (fetchStored codec id) world =
      (.error .notFound, { world with handed := none }) := by
  simp only [fetchStored, Proc.call_bind, Proc.ret_bind, Proc.pure_eq, Proc.run_call, handle,
    absent, Proc.run_ret]

theorem run_fetchStored_expired {paste : Paste} (stored : world.repo id = some paste)
    (expired : paste.isExpired instant.reading = true) :
    Proc.run (pasteHandle recorder draws cache instant) (fetchStored codec id) world =
      (.error .notFound, { world.setRepo id none with
        handed := some paste
        cache := cache.delete world.cache instant.time id }) := by
  simp only [fetchStored, Proc.call_bind, Proc.ret_bind, Proc.pure_eq, Proc.run_call, handle,
    stored, expired, ↓reduceIte, Proc.run_ret]
  rfl

theorem run_fetchStored_burn {paste : Paste} (stored : world.repo id = some paste)
    (live : paste.isExpired instant.reading = false) (single : paste.oneShot = true) :
    Proc.run (pasteHandle recorder draws cache instant) (fetchStored codec id) world =
      (.ok paste, { world.setRepo id none with handed := some paste }) := by
  simp only [fetchStored, Proc.call_bind, Proc.ret_bind, Proc.pure_eq, Proc.run_call, handle,
    stored, live, single, Bool.false_eq_true, ↓reduceIte, Proc.run_ret]
  rfl

/-- The cache fill of `fetch`, if the paste serializes. -/
def fillWith (codec : JsonCodec) (instant : Instant) (world : PasteWorld cache) (id : PasteId)
    (paste : Paste) : PasteWorld cache :=
  match codec.toString (.fromPaste paste) with
  | some json => World.fill cache instant world id json (ttlAt instant.reading paste.expiresAt)
  | none => world

theorem run_fillCache {paste : Paste} (live : paste.isExpired instant.reading = false) :
    Proc.run (pasteHandle recorder draws cache instant) (fillCache codec id paste) world =
      ((), fillWith codec instant world id paste) := by
  have positive := ttlAt_pos live
  simp only [fillCache, Proc.run_bind, run_cacheTtlSecs, positive, ↓reduceIte, fillWith]
  cases codec.toString (.fromPaste paste) <;> rfl

theorem run_fetchStored_many {paste : Paste} (stored : world.repo id = some paste)
    (live : paste.isExpired instant.reading = false) (many : paste.oneShot = false) :
    Proc.run (pasteHandle recorder draws cache instant) (fetchStored codec id) world =
      (.ok paste, (fillWith codec instant { world with handed := some paste } id paste).record
        pasteEntity recorder id) := by
  simp only [fetchStored, Proc.call_bind, Proc.ret_bind, Proc.pure_eq, Proc.run_call, handle,
    stored, live, many, Bool.false_eq_true, ↓reduceIte, Proc.run_bind, Proc.run_ret]
  rw [run_fillCache _ id live]

theorem run_fetch_miss {raw : String} {state : cache.State} (parsed : PasteId.parse raw = .ok id)
    (missed : cache.get world.cache instant.time id = (none, state)) :
    Proc.run (pasteHandle recorder draws cache instant) (fetch codec raw) world =
      Proc.run (pasteHandle recorder draws cache instant) (fetchStored codec id)
        { world with cache := state } := by
  simp only [fetch, parsed, fetchCached, Proc.call_bind, Proc.ret_bind, Proc.pure_eq,
    Proc.run_call, handle, missed]

theorem run_fetch_hit {raw json : String} {state : cache.State} {cached : CachedPaste}
    (parsed : PasteId.parse raw = .ok id)
    (found : cache.get world.cache instant.time id = (some json, state))
    (decoded : codec.fromStr json = some cached)
    (live : cached.intoPaste.isExpired instant.reading = false) :
    Proc.run (pasteHandle recorder draws cache instant) (fetch codec raw) world =
      (.ok cached.intoPaste,
        World.record pasteEntity recorder { world with cache := state } id) := by
  simp only [fetch, parsed, fetchCached, Proc.call_bind, Proc.ret_bind, Proc.pure_eq,
    Proc.run_call, handle, found, decoded, live, Bool.false_eq_true, ↓reduceIte, Proc.run_ret]

theorem run_fetch_lapsed {raw json : String} {state : cache.State} {cached : CachedPaste}
    (parsed : PasteId.parse raw = .ok id)
    (found : cache.get world.cache instant.time id = (some json, state))
    (decoded : codec.fromStr json = some cached)
    (expired : cached.intoPaste.isExpired instant.reading = true) :
    Proc.run (pasteHandle recorder draws cache instant) (fetch codec raw) world =
      Proc.run (pasteHandle recorder draws cache instant) (fetchStored codec id)
        { world with cache := cache.delete state instant.time id } := by
  simp only [fetch, parsed, fetchCached, Proc.call_bind, Proc.ret_bind, Proc.pure_eq,
    Proc.run_call, handle, found, decoded, expired, ↓reduceIte]

theorem run_delete {raw : String} (parsed : PasteId.parse raw = .ok id) :
    Proc.run (pasteHandle recorder draws cache instant) (delete raw) world =
      (if (world.repo id).isSome then .ok () else .error .notFound,
        { world.setRepo id none with cache := cache.delete world.cache instant.time id }) := by
  simp only [delete, parsed, Proc.call_bind, Proc.ret_bind, Proc.pure_eq, Proc.run_call, handle]
  cases world.repo id <;> rfl

end Fetch

/-- `create` only adds to the repository and uses up draws. -/
theorem create_adds (content : String) (syntaxHint : Option String) (ttlSeconds : Option Nat)
    (oneShot : Bool) : (create content syntaxHint ttlSeconds oneShot).Only createAsks := by
  have loop : ∀ content createdAt expiresAt attempts,
      (createLoop content syntaxHint createdAt expiresAt oneShot attempts).Only createAsks := by
    intro content createdAt expiresAt attempts
    induction attempts with
    | zero => trivial
    | succ attempts ih =>
        refine ⟨trivial, fun draw => ⟨trivial, ?_⟩⟩
        rintro (⟨_ | cause⟩ | ⟨⟩)
        · exact ih
        · trivial
        · trivial
  unfold create
  split
  · trivial
  · exact ⟨trivial, fun createdAt => loop _ createdAt _ _⟩

/-- A cached text encodes the stored paste, which is not one-shot, up to views. -/
def Backed (codec : JsonCodec) (repo : PasteId → Option Paste) (id : PasteId) (json : String) :
    Prop :=
  ∃ paste stored, repo id = some stored ∧ codec.toString (.fromPaste paste) = some json ∧
    paste.unviewed = stored.unviewed ∧ stored.oneShot = false

/-- The two services agree up to views, and what the cache may answer is backed
by the repository. -/
structure Agree (codec : JsonCodec) (cache : LossyCache PasteId)
    (cached : PasteWorld cache.toCache) (plain : PasteWorld (noOpCache PasteId)) : Prop where
  stored : ∀ id, (cached.repo id).map Paste.unviewed = (plain.repo id).map Paste.unviewed
  drawn : cached.drawn = plain.drawn
  recorded : cached.recorded = plain.recorded
  entries : ∃ last, cache.holds cached.cache last ∧
    ∀ id json, last id = some json → Backed codec cached.repo id json

section Agree

variable {codec : JsonCodec} {recorder : Recorder} {draws : Nat → Nat → Fin 62}
  {cache : LossyCache PasteId} {instant : Instant} {cached : PasteWorld cache.toCache}
  {plain : PasteWorld (noOpCache PasteId)} {id : PasteId}

theorem Agree.start : Agree codec cache (.start cache.toCache) (.start (noOpCache PasteId)) where
  stored _ := rfl
  drawn := rfl
  recorded := rfl
  entries := ⟨fun _ => none, cache.holds_empty, fun _ _ present => nomatch present⟩

/-- The paste that the service without a cache has under the id. -/
theorem Agree.twin (agree : Agree codec cache cached plain) {paste : Paste}
    (here : cached.repo id = some paste) :
    ∃ twin, plain.repo id = some twin ∧ paste.unviewed = twin.unviewed := by
  have same := agree.stored id
  rw [here, Option.map_some] at same
  obtain ⟨twin, there, views⟩ := Option.map_eq_some_iff.mp same.symm
  exact ⟨twin, there, views.symm⟩

theorem Agree.absent (agree : Agree codec cache cached plain) (here : cached.repo id = none) :
    plain.repo id = none := by
  have same := agree.stored id
  rw [here, Option.map_none] at same
  exact Option.map_eq_none_iff.mp same.symm

theorem Agree.handed (agree : Agree codec cache cached plain) (left right : Option Paste) :
    Agree codec cache { cached with handed := left } { plain with handed := right } :=
  ⟨agree.stored, agree.drawn, agree.recorded, agree.entries⟩

theorem Agree.got (agree : Agree codec cache cached plain) (time : Nat) :
    Agree codec cache { cached with cache := (cache.get cached.cache time id).2 } plain := by
  obtain ⟨last, holds, backed⟩ := agree.entries
  exact ⟨agree.stored, agree.drawn, agree.recorded, last, cache.get_holds _ last time id holds,
    backed⟩

theorem Agree.drop (agree : Agree codec cache cached plain) (time : Nat) (id : PasteId) :
    Agree codec cache { cached with cache := cache.delete cached.cache time id } plain := by
  obtain ⟨last, holds, backed⟩ := agree.entries
  refine ⟨agree.stored, agree.drawn, agree.recorded, _, cache.delete_holds _ last time id holds, ?_⟩
  intro other json present
  by_cases self : other = id
  · rw [self, Function.update_self] at present
    cases present
  · rw [Function.update_of_ne self] at present
    exact backed other json present

/-- Counting views changes nothing that the two services must agree on. -/
theorem Agree.increment (agree : Agree codec cache cached plain) (id : PasteId) (n m : Nat) :
    Agree codec cache (cached.incrementBy pasteEntity id n)
      (plain.incrementBy pasteEntity id m) := by
  have counted : ∀ {σ : Type} (world : World PasteId Paste σ) (n : Nat) (other : PasteId),
      ((world.incrementBy pasteEntity id n).repo other).map Paste.unviewed =
        (world.repo other).map Paste.unviewed := by
    intro σ world n other
    by_cases self : other = id
    · subst self
      simp only [World.incrementBy, World.setRepo, Function.update_self, Option.map_map]
      rfl
    · simp only [World.incrementBy, World.setRepo, Function.update_of_ne self]
  obtain ⟨last, holds, backed⟩ := agree.entries
  refine ⟨fun other => ?_, agree.drawn, agree.recorded, last, holds, ?_⟩
  · rw [counted cached n other, counted plain m other, agree.stored other]
  · intro other json present
    obtain ⟨paste, stored, here, encoded, same, many⟩ := backed other json present
    have views := counted cached n other
    rw [here, Option.map_some] at views
    obtain ⟨bumped, there, equal⟩ := Option.map_eq_some_iff.mp views
    refine ⟨paste, bumped, there, encoded, same.trans equal.symm, ?_⟩
    have flags : bumped.unviewed.oneShot = stored.unviewed.oneShot := congrArg Paste.oneShot equal
    exact flags.trans many

theorem Agree.record (agree : Agree codec cache cached plain) (recorder : Recorder)
    (id : PasteId) :
    Agree codec cache (cached.record pasteEntity recorder id)
      (plain.record pasteEntity recorder id) := by
  have log : cached.recorded ++ [id] = plain.recorded ++ [id] := by rw [agree.recorded]
  cases recorder with
  | immediate =>
      have counted := agree.increment id 1 1
      exact ⟨counted.stored, agree.drawn, log, counted.entries⟩
  | batching => exact ⟨agree.stored, agree.drawn, log, agree.entries⟩

/-- Both services store, or remove, the same under one id. -/
theorem Agree.set_stored (agree : Agree codec cache cached plain) (id : PasteId)
    (left right : Option Paste) (same : left.map Paste.unviewed = right.map Paste.unviewed)
    (other : PasteId) :
    ((cached.setRepo id left).repo other).map Paste.unviewed =
      ((plain.setRepo id right).repo other).map Paste.unviewed := by
  by_cases self : other = id
  · simp only [World.setRepo, self, Function.update_self, same]
  · simp only [World.setRepo, Function.update_of_ne self, agree.stored]

theorem Backed.set {repo : PasteId → Option Paste} {other : PasteId} {json : String}
    (backed : Backed codec repo other json) (distinct : other ≠ id) (value : Option Paste) :
    Backed codec (Function.update repo id value) other json := by
  obtain ⟨paste, stored, here, rest⟩ := backed
  exact ⟨paste, stored, by rw [Function.update_of_ne distinct, here], rest⟩

theorem Agree.delete (agree : Agree codec cache cached plain) (time : Nat) (id : PasteId) :
    Agree codec cache { cached.setRepo id none with
        cache := cache.delete cached.cache time id }
      { plain.setRepo id none with
        cache := (noOpCache PasteId).delete plain.cache time id } := by
  obtain ⟨last, holds, backed⟩ := agree.entries
  refine ⟨agree.set_stored id none none rfl, agree.drawn, agree.recorded, _,
    cache.delete_holds _ last time id holds, ?_⟩
  intro other json present
  by_cases self : other = id
  · rw [self, Function.update_self] at present
    cases present
  · rw [Function.update_of_ne self] at present
    exact (backed other json present).set self none

/-- A one-shot paste is not in the cache, so burning it needs no invalidation. -/
theorem Agree.burn (agree : Agree codec cache cached plain) {paste : Paste}
    (here : cached.repo id = some paste) (single : paste.oneShot = true) :
    Agree codec cache (cached.setRepo id none) (plain.setRepo id none) := by
  obtain ⟨last, holds, backed⟩ := agree.entries
  refine ⟨agree.set_stored id none none rfl, agree.drawn, agree.recorded, last, holds, ?_⟩
  intro other json present
  have kept := backed other json present
  by_cases self : other = id
  · obtain ⟨encoded, stored, there, -, -, many⟩ := kept
    rw [self, here] at there
    cases there
    rw [single] at many
    cases many
  · exact kept.set self none

/-- A new paste takes an id that the cache has nothing for. -/
theorem Agree.insert (agree : Agree codec cache cached plain) (paste : Paste)
    (free : cached.repo paste.id = none) :
    Agree codec cache (cached.setRepo paste.id (some paste))
      (plain.setRepo paste.id (some paste)) := by
  obtain ⟨last, holds, backed⟩ := agree.entries
  refine ⟨agree.set_stored paste.id _ _ rfl, agree.drawn, agree.recorded, last, holds, ?_⟩
  intro other json present
  have kept := backed other json present
  have self : other ≠ paste.id := by
    rintro rfl
    obtain ⟨encoded, stored, there, -⟩ := kept
    rw [free] at there
    cases there
  exact kept.set self (some paste)

theorem Agree.fill (agree : Agree codec cache cached plain) {paste twin : Paste}
    (here : cached.repo id = some paste) (many : paste.oneShot = false) :
    Agree codec cache (fillWith codec instant cached id paste)
      (fillWith codec instant plain id twin) := by
  have quiet : ∀ (left : PasteWorld cache.toCache), Agree codec cache left plain →
      Agree codec cache left (fillWith codec instant plain id twin) := by
    intro left agree
    unfold fillWith
    cases codec.toString (.fromPaste twin) with
    | none => exact agree
    | some json => exact ⟨agree.stored, agree.drawn, agree.recorded, agree.entries⟩
  apply quiet
  unfold fillWith
  cases encoded : codec.toString (.fromPaste paste) with
  | none => exact agree
  | some json =>
      obtain ⟨last, holds, backed⟩ := agree.entries
      refine ⟨agree.stored, agree.drawn, agree.recorded, _,
        cache.set_holds _ last instant.time id json _ holds, ?_⟩
      intro other text present
      by_cases self : other = id
      · subst self
        rw [Function.update_self] at present
        cases present
        exact ⟨paste, paste, here, encoded, rfl, many⟩
      · rw [Function.update_of_ne self] at present
        exact backed other text present

/-- Two pastes that agree up to views expire together and burn together. -/
theorem unviewed_fields {left right : Paste} (same : left.unviewed = right.unviewed) :
    left.expiresAt = right.expiresAt ∧ left.oneShot = right.oneShot := by
  have expiry : left.unviewed.expiresAt = right.unviewed.expiresAt :=
    congrArg Paste.expiresAt same
  have flags : left.unviewed.oneShot = right.unviewed.oneShot := congrArg Paste.oneShot same
  exact ⟨expiry, flags⟩

/-- Answering from the repository, both services do the same. -/
theorem Agree.fetchStored (agree : Agree codec cache cached plain) (id : PasteId) :
    (Proc.run (pasteHandle recorder draws cache.toCache instant) (fetchStored codec id)
        cached).1.map Paste.unviewed =
      (Proc.run (pasteHandle recorder draws (noOpCache PasteId) instant) (fetchStored codec id)
        plain).1.map Paste.unviewed ∧
    Agree codec cache
      (Proc.run (pasteHandle recorder draws cache.toCache instant) (fetchStored codec id) cached).2
      (Proc.run (pasteHandle recorder draws (noOpCache PasteId) instant) (fetchStored codec id)
        plain).2 := by
  cases here : cached.repo id with
  | none =>
      rw [run_fetchStored_none cached id here, run_fetchStored_none plain id (agree.absent here)]
      exact ⟨rfl, agree.handed none none⟩
  | some paste =>
      obtain ⟨twin, there, same⟩ := agree.twin here
      obtain ⟨expiry, flags⟩ := unviewed_fields same
      have together : twin.isExpired instant.reading = paste.isExpired instant.reading := by
        rw [Paste.isExpired, Paste.isExpired, expiry]
      by_cases expired : paste.isExpired instant.reading = true
      · rw [run_fetchStored_expired cached id here expired,
          run_fetchStored_expired plain id there (together.trans expired)]
        exact ⟨rfl, (agree.delete instant.time id).handed (some paste) (some twin)⟩
      · have live : paste.isExpired instant.reading = false := by simpa using expired
        by_cases single : paste.oneShot = true
        · rw [run_fetchStored_burn cached id here live single,
            run_fetchStored_burn plain id there (together.trans live) (flags ▸ single)]
          exact ⟨congrArg Except.ok same, (agree.burn here single).handed (some paste) (some twin)⟩
        · have many : paste.oneShot = false := by simpa using single
          rw [run_fetchStored_many cached id here live many,
            run_fetchStored_many plain id there (together.trans live) (flags ▸ many)]
          refine ⟨congrArg Except.ok same, Agree.record ?_ recorder id⟩
          exact (agree.handed (some paste) (some twin)).fill here many

theorem Agree.adds (agree : Agree codec cache cached plain) (op : Op PasteId Paste)
    (only : createAsks op) :
    (pasteHandle recorder draws cache.toCache instant cached op).1 =
        (pasteHandle recorder draws (noOpCache PasteId) instant plain op).1 ∧
      Agree codec cache (pasteHandle recorder draws cache.toCache instant cached op).2
        (pasteHandle recorder draws (noOpCache PasteId) instant plain op).2 := by
  cases op with
  | repoInsert paste =>
      cases taken : cached.repo paste.id with
      | none =>
          have free := agree.absent taken
          simp only [pasteHandle, handle, pasteEntity, taken, free]
          exact ⟨trivial, agree.insert paste taken⟩
      | some other =>
          obtain ⟨twin, full, -⟩ := agree.twin taken
          simp only [pasteHandle, handle, pasteEntity, taken, full]
          exact ⟨trivial, agree⟩
  | nowUnix => exact ⟨rfl, agree⟩
  | random =>
      refine ⟨congrArg draws agree.drawn, agree.stored, ?_, agree.recorded, agree.entries⟩
      exact congrArg (· + 1) agree.drawn
  | _ => exact only.elim

/-- A cached text decodes to the stored paste, which is then not one-shot. -/
theorem Agree.decodes (agree : Agree codec cache cached plain) {time : Nat} {json : String}
    (found : (cache.get cached.cache time id).1 = some json) :
    ∃ paste twin, codec.fromStr json = some (.fromPaste paste) ∧ plain.repo id = some twin ∧
      paste.unviewed = twin.unviewed ∧ twin.oneShot = false := by
  obtain ⟨last, holds, backed⟩ := agree.entries
  have present := cache.get_last _ last time id json holds found
  obtain ⟨paste, stored, here, encoded, same, many⟩ := backed id json present
  obtain ⟨twin, there, equal⟩ := agree.twin here
  have flags := (unviewed_fields equal).2
  exact ⟨paste, twin, codec.roundTrip _ _ encoded, there, same.trans equal, flags ▸ many⟩

theorem Agree.fetch (agree : Agree codec cache cached plain) (recorder : Recorder)
    (draws : Nat → Nat → Fin 62) (instant : Instant) (raw : String) :
    (Proc.run (pasteHandle recorder draws cache.toCache instant) (fetch codec raw)
        cached).1.map Paste.unviewed =
      (Proc.run (pasteHandle recorder draws (noOpCache PasteId) instant) (fetch codec raw)
        plain).1.map Paste.unviewed ∧
    Agree codec cache
      (Proc.run (pasteHandle recorder draws cache.toCache instant) (fetch codec raw) cached).2
      (Proc.run (pasteHandle recorder draws (noOpCache PasteId) instant) (fetch codec raw)
        plain).2 := by
  cases parsed : PasteId.parse raw with
  | error err =>
      simp only [Pastebin.fetch, parsed]
      exact ⟨rfl, agree⟩
  | ok id =>
      have missed : (noOpCache PasteId).get plain.cache instant.time id = (none, plain.cache) := rfl
      rw [run_fetch_miss plain id parsed missed]
      have got : Agree codec cache { cached with
          cache := (cache.get cached.cache instant.time id).2 } plain := agree.got instant.time
      cases found : (cache.get cached.cache instant.time id).1 with
      | none =>
          have miss : cache.get cached.cache instant.time id =
              (none, (cache.get cached.cache instant.time id).2) := Prod.ext found rfl
          rw [run_fetch_miss cached id parsed miss]
          exact got.fetchStored id
      | some json =>
          have hit : cache.get cached.cache instant.time id =
              (some json, (cache.get cached.cache instant.time id).2) := Prod.ext found rfl
          obtain ⟨paste, twin, decoded, there, same, many⟩ := agree.decodes found
          have together : twin.isExpired instant.reading = paste.isExpired instant.reading := by
            rw [Paste.isExpired, Paste.isExpired, (unviewed_fields same).1]
          by_cases expired : paste.isExpired instant.reading = true
          · rw [run_fetch_lapsed cached id parsed hit decoded expired]
            exact (got.drop instant.time id).fetchStored id
          · have live : paste.isExpired instant.reading = false := by simpa using expired
            rw [run_fetch_hit cached id parsed hit decoded live,
              run_fetchStored_many plain id there (together.trans live) many]
            refine ⟨congrArg Except.ok same, Agree.record ?_ recorder id⟩
            -- without a cache, the fill leaves no trace that the two must agree on
            unfold fillWith
            cases codec.toString (.fromPaste twin) <;>
              exact ⟨got.stored, got.drawn, got.recorded, got.entries⟩

theorem Agree.step (agree : Agree codec cache cached plain) (recorder : Recorder)
    (draws : Nat → Nat → Fin 62) (instant : Instant) (call : Call) :
    (runCall codec recorder draws cache.toCache instant call cached).1.unviewed =
        (runCall codec recorder draws (noOpCache PasteId) instant call plain).1.unviewed ∧
      Agree codec cache (runCall codec recorder draws cache.toCache instant call cached).2
        (runCall codec recorder draws (noOpCache PasteId) instant call plain).2 := by
  cases call with
  | create content syntaxHint ttlSeconds oneShot =>
      simp only [runCall, Call.program, Proc.run_map]
      have answers : ∀ left right op, Agree codec cache left right → createAsks op →
          (pasteHandle recorder draws cache.toCache instant left op).1 =
              (pasteHandle recorder draws (noOpCache PasteId) instant right op).1 ∧
            Agree codec cache (pasteHandle recorder draws cache.toCache instant left op).2
              (pasteHandle recorder draws (noOpCache PasteId) instant right op).2 :=
        fun _ _ op agree only => agree.adds op only
      have both := Proc.run_simulates (Agree codec cache) answers
        (create_adds content syntaxHint ttlSeconds oneShot) agree
      exact ⟨congrArg (fun result => (Reply.created result).unviewed) both.1, both.2⟩
  | fetch raw =>
      simp only [runCall, Call.program, Proc.run_map]
      have both := agree.fetch recorder draws instant raw
      exact ⟨congrArg Reply.fetched both.1, both.2⟩
  | delete raw =>
      simp only [runCall, Call.program, Proc.run_map]
      cases parsed : PasteId.parse raw with
      | error err =>
          simp only [Pastebin.delete, parsed]
          exact ⟨rfl, agree⟩
      | ok id =>
          rw [run_delete cached id parsed, run_delete plain id parsed]
          have same : (cached.repo id).isSome = (plain.repo id).isSome := by
            have stored := congrArg Option.isSome (agree.stored id)
            rwa [Option.isSome_map, Option.isSome_map] at stored
          exact ⟨by rw [same], agree.delete instant.time id⟩

theorem Agree.outcomes (agree : Agree codec cache cached plain) (recorder : Recorder)
    (draws : Nat → Nat → Fin 62) (steps : List Step) :
    Pastebin.outcomes codec recorder draws cache.toCache (fun cached _ => cached) cached steps =
      Pastebin.outcomes codec recorder draws (noOpCache PasteId) (fun _ plain => plain) plain
        steps := by
  induction steps generalizing cached plain with
  | nil => rfl
  | cons step steps ih =>
      cases step with
      | call instant call =>
          have both := agree.step recorder draws instant call
          simp only [Pastebin.outcomes, both.1, both.2.recorded, ih both.2]
          rw [funext both.2.stored]
      | counted id left right => exact ih (agree.increment id left right)

end Agree

/-- The reply of a fetch is not an expired paste. -/
def Outcome.Unexpired (outcome : Outcome) : Prop :=
  ∀ paste, outcome.reply = .fetched (.ok paste) → paste.isExpired outcome.instant.reading = false

section Unexpired

variable (codec : JsonCodec) (recorder : Recorder) (draws : Nat → Nat → Fin 62)

theorem fetchStored_unexpired (instant : Instant) (world : PasteWorld (noOpCache PasteId))
    (id : PasteId) (paste : Paste)
    (served : (Proc.run (pasteHandle recorder draws (noOpCache PasteId) instant)
      (fetchStored codec id) world).1 = .ok paste) :
    paste.isExpired instant.reading = false := by
  cases stored : world.repo id with
  | none =>
      rw [run_fetchStored_none world id stored] at served
      cases served
  | some found =>
      by_cases expired : found.isExpired instant.reading = true
      · rw [run_fetchStored_expired world id stored expired] at served
        cases served
      · have live : found.isExpired instant.reading = false := by simpa using expired
        by_cases single : found.oneShot = true
        · rw [run_fetchStored_burn world id stored live single] at served
          cases served
          exact live
        · have many : found.oneShot = false := by simpa using single
          rw [run_fetchStored_many world id stored live many] at served
          cases served
          exact live

/-- Without a cache, no call returns an expired paste. -/
theorem runCall_unexpired (instant : Instant) (call : Call)
    (world : PasteWorld (noOpCache PasteId)) (paste : Paste)
    (served : (runCall codec recorder draws (noOpCache PasteId) instant call world).1.unviewed =
      .fetched (.ok paste)) : paste.isExpired instant.reading = false := by
  cases call with
  | create content syntaxHint ttlSeconds oneShot =>
      simp only [runCall, Call.program, Proc.run_map, Reply.unviewed] at served
      cases served
  | delete raw =>
      simp only [runCall, Call.program, Proc.run_map, Reply.unviewed] at served
      cases served
  | fetch raw =>
      simp only [runCall, Call.program, Proc.run_map, Reply.unviewed] at served
      cases parsed : PasteId.parse raw with
      | error err =>
          simp only [fetch, parsed] at served
          cases served
      | ok id =>
          have missed : (noOpCache PasteId).get world.cache instant.time id =
              (none, world.cache) := rfl
          rw [run_fetch_miss world id parsed missed] at served
          cases answer : (Proc.run (pasteHandle recorder draws (noOpCache PasteId) instant)
              (fetchStored codec id) world).1 with
          | error err =>
              have failed := served
              rw [answer] at failed
              cases failed
          | ok found =>
              have live := fetchStored_unexpired codec recorder draws instant world id found answer
              have same := served
              rw [answer] at same
              cases same
              exact live

theorem outcomes_unexpired (amount : Nat → Nat → Nat) (world : PasteWorld (noOpCache PasteId))
    (steps : List Step) :
    ∀ outcome ∈ outcomes codec recorder draws (noOpCache PasteId) amount world steps,
      outcome.Unexpired := by
  induction steps generalizing world with
  | nil => simp [outcomes]
  | cons step steps ih =>
      cases step with
      | call instant call =>
          intro outcome member
          rcases List.mem_cons.mp member with rfl | later
          · intro paste served
            exact runCall_unexpired codec recorder draws instant call world paste served
          · exact ih _ outcome later
      | counted id left right => exact ih _

end Unexpired

/-- Any lossy read-cache is transparent: call after call, the results, the stored
pastes and the recorded views are those of the service without a cache, views
aside, and no expired paste is returned. -/
theorem lossy_transparent (codec : JsonCodec) (recorder : Recorder)
    (draws : Nat → Nat → Fin 62) (cache : LossyCache PasteId) (steps : List Step) :
    outcomes codec recorder draws cache.toCache (fun cached _ => cached)
        (.start cache.toCache) steps =
      outcomes codec recorder draws (noOpCache PasteId) (fun _ plain => plain)
        (.start (noOpCache PasteId)) steps ∧
    ∀ outcome ∈ outcomes codec recorder draws cache.toCache (fun cached _ => cached)
        (.start cache.toCache) steps, outcome.Unexpired := by
  have start : Agree codec cache (.start cache.toCache) (.start (noOpCache PasteId)) := Agree.start
  have same := start.outcomes recorder draws steps
  refine ⟨same, ?_⟩
  rw [same]
  exact outcomes_unexpired codec recorder draws _ _ steps

end ActorServices.Pastebin
